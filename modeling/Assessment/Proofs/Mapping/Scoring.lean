import Assessment.Proofs.Mapping.Scale
import Assessment.Proofs.Numeric.Order
import Assessment.Proofs.Result

/-!
# Scoring responses

A mapping and an area mapping of well-formed areas score responses by one law: what is added is the
tally of the scale, so that it stays the same for any order of the response's elements and any
number of copies, and a copy after the first occurrence changes nothing at all. The score stays
between the bounds.

The code is `map_value` and `map_points`, for `mapResponse` and `mapResponsePoint` (section B.4.3b
of the specification). The sum itself is one of doubles, which depends on the order in which they
are added; what does not depend on it is which numbers are added, and that is what the law says.

* `Scale.Governs`: the law.
* `Mapping.clamp_le`, `Mapping.le_clamp`: bounds, of which the upper one comes last.
* `Shape.fits_iff`: the areas that can be told to hold a point or not.
* `scales_govern`: both kinds of mapping keep the law.
-/

namespace Assessment

open Mapping Numeric

/-! ## Bounds -/

namespace Mapping

variable {low high x : Float} {lower upper : Option Float}

theorem atMost_le (h : high.isNaN = false) : atMost high x ≤ high := by
  unfold atMost
  split_ifs with hx
  · exact float_le_refl h
  · simp only [Bool.or_eq_true, decide_eq_true_eq, not_or, Bool.not_eq_true] at hx
    exact (float_not_lt h hx.2).1 hx.1

theorem le_atLeast (h : low.isNaN = false) : low ≤ atLeast low x := by
  unfold atLeast
  split_ifs with hx
  · exact float_le_refl h
  · simp only [Bool.or_eq_true, decide_eq_true_eq, not_or, Bool.not_eq_true] at hx
    exact (float_not_lt hx.2 h).1 hx.1

/-- The upper bound holds, whatever the lower one is. -/
theorem clamp_le (h : high.isNaN = false) : clamp lower (some high) x ≤ high := atMost_le h

/-- The lower bound holds unless the upper one is below it. -/
theorem le_clamp (h : low.isNaN = false) (hupper : ∀ high, upper = some high → ¬ high < low) :
    low ≤ clamp (some low) upper x := by
  have hraised : low ≤ atLeast low x := le_atLeast h
  cases upper with
  | none => exact hraised
  | some high =>
    show low ≤ atMost high (atLeast low x)
    obtain ⟨-, hnan, -⟩ := float_le_iff.1 hraised
    unfold atMost
    split_ifs with hx
    · rw [hnan, Bool.or_false, decide_eq_true_eq] at hx
      obtain ⟨hhigh, -, -⟩ := float_lt_iff.1 hx
      exact (float_not_lt hhigh h).1 (hupper high rfl)
    · exact hraised

end Mapping

/-! ## The law -/

/-- A response that is NULL, single, multiple or ordered has elements. -/
inductive Value.Lists : Value → List Scalar → Prop
  | null : Lists .null []
  | single (s : Scalar) : Lists (.single s) [s]
  | multiple (c : Container) : Lists (.multiple c) c.items
  | ordered (c : Container) : Lists (.ordered c) c.items

/-- The distinct elements are the answers to score. -/
theorem Value.Lists.answers_eq {v : Value} {items : List Scalar} (h : v.Lists items)
    (identifier : String) : answers identifier v = .ok (distinctFrom [] items) := by
  cases h <;> rfl

/-- The law of scoring by a scale, for responses of scalars of some kind, what is added for them and
their scores. What is added adds up to the tally, and the score is its sum between the bounds. For
a response with other places and further copies of the elements, the same is added in some order. A
copy of an earlier element changes nothing. A score is not above an upper bound, and not below a
lower bound unless the upper bound is. A copy is what is the same, so that a NaN has none; a bound
is a number. -/
structure Scale.Governs {α : Type} (S : Scale α) (Kind : Scalar → Prop)
    (addends : Value → Except Fault (List Float)) (apply : Value → Except Fault Float) : Prop where
  tally : ∀ v items, v.Lists items → (∀ x ∈ items, Kind x) →
    ∃ xs : List Float, addends v = .ok xs ∧ (xs : Multiset Float) = S.tally items ∧
      apply v = .ok (score S.lower S.upper xs)
  rearranged : ∀ u v items items' copies, u.Lists items → v.Lists items' →
    (∀ x ∈ items', Kind x) → items'.Perm (items ++ copies) → (∀ x ∈ copies, Covered items x) →
    ∃ xs ys : List Float, addends u = .ok xs ∧ addends v = .ok ys ∧ xs.Perm ys
  copied : ∀ u v before x after, u.Lists (before ++ after) → v.Lists (before ++ x :: after) →
    Covered before x → addends v = addends u ∧ apply v = apply u
  le_upper : ∀ v x high, apply v = .ok x → S.upper = some high → high.isNaN = false → x ≤ high
  lower_le : ∀ v x low, apply v = .ok x → S.lower = some low → low.isNaN = false →
    (∀ high, S.upper = some high → ¬ high < low) → low ≤ x

/-- What is added for the distinct elements of a response, by a rule that finds their entries. -/
def Scale.addends {α : Type} (S : Scale α) (find : Scalar → Except Fault (Option (Nat × Float)))
    (identifier : String) (v : Value) : Except Fault (List Float) := do
  let ss ← answers identifier v
  addendsFrom find S.default [] ss

/-- A response is scored by what is added for it. -/
theorem scored_eq (ss : Except Fault (List Scalar))
    (add : List Scalar → Except Fault (List Float)) (sum : List Float → Float) :
    (do
      let ss ← ss
      let addends ← add ss
      pure (sum addends)) = (ss >>= add).map sum := by
  cases ss with
  | error e => rfl
  | ok ss =>
    show (add ss >>= fun addends => pure (sum addends)) = (add ss).map sum
    cases add ss <;> rfl

namespace Scale

variable {α : Type} {S : Scale α} {find : Scalar → Except Fault (Option (Nat × Float))}
  {Kind : Scalar → Prop} {v : Value} {items : List Scalar}

theorem addends_eq (h : v.Lists items) (identifier : String) :
    S.addends find identifier v = addendsFrom find S.default [] (distinctFrom [] items) := by
  rw [Scale.addends, h.answers_eq]
  rfl

/-- What is added for a response adds up to the tally of its elements. -/
theorem exists_addends (hfind : ∀ x, Kind x → S.Finds find x) (hv : v.Lists items)
    (hkind : ∀ x ∈ items, Kind x) (identifier : String) :
    ∃ xs : List Float, S.addends find identifier v = .ok xs ∧
      (xs : Multiset Float) = S.tally items := by
  obtain ⟨xs, hxs, hmulti⟩ := S.exists_addendsFrom
    (fun x hx => hfind x (hkind x (mem_of_mem_distinctFrom hx))) []
  exact ⟨xs, (addends_eq hv identifier).trans hxs, hmulti.trans (S.tallyFrom_distinctFrom items)⟩

/-- **The law follows from finding the first entry.** -/
theorem governs_of_finds (hfind : ∀ x, Kind x → S.Finds find x) (identifier : String) :
    S.Governs Kind (S.addends find identifier)
      fun v => (S.addends find identifier v).map (score S.lower S.upper) := by
  constructor
  case tally =>
    intro v items hv hkind
    obtain ⟨xs, hxs, hmulti⟩ := exists_addends hfind hv hkind identifier
    exact ⟨xs, hxs, hmulti, by rw [hxs]; rfl⟩
  case rearranged =>
    intro u v items items' copies hu hv hkind hperm hcopies
    have hkind' : ∀ x ∈ items, Kind x := fun x hx =>
      hkind x (hperm.mem_iff.2 (List.mem_append_left copies hx))
    obtain ⟨xs, hxs, hx⟩ := exists_addends hfind hu hkind' identifier
    obtain ⟨ys, hys, hy⟩ := exists_addends hfind hv hkind identifier
    refine ⟨xs, ys, hxs, hys, Multiset.coe_eq_coe.1 ?_⟩
    rw [hx, hy, S.tally_rearranged hperm hcopies]
  case copied =>
    intro u v before x after hu hv hx
    have heq : S.addends find identifier v = S.addends find identifier u := by
      rw [addends_eq hu, addends_eq hv, distinctFrom_append, distinctFrom_append, List.nil_append,
        distinctFrom_cons_of_covered hx]
    exact ⟨heq, by rw [heq]⟩
  case le_upper =>
    intro v x high hv hupper hhigh
    obtain ⟨xs, -, rfl⟩ := map_eq_ok_iff.1 hv
    rw [score, hupper]
    exact clamp_le hhigh
  case lower_le =>
    intro v x low hv hlower hlow hupper
    obtain ⟨xs, -, rfl⟩ := map_eq_ok_iff.1 hv
    rw [score, hlower]
    exact le_clamp hlow hupper

end Scale

/-! ## Finding the first entry -/

/-- The first place of a list that passes a test and its number, with places counted from `i` on. -/
def placeFrom {α : Type} (p : α → Bool) (number : α → Float) (i : Nat) (l : List α) :
    Option (Nat × Float) :=
  (l.findFinIdx? p).map fun k => (i + k.val, number l[k])

theorem placeFrom_cons {α : Type} (p : α → Bool) (number : α → Float) (i : Nat) (e : α)
    (l : List α) :
    placeFrom p number i (e :: l) =
      if p e = true then some (i, number e) else placeFrom p number (i + 1) l := by
  rw [placeFrom, List.findFinIdx?_cons]
  split
  · rfl
  · rw [Option.map_map, placeFrom]
    refine congrArg (Option.map · _) (funext fun k => ?_)
    show (i + (k.val + 1), number l[k]) = (i + 1 + k.val, number l[k])
    rw [Nat.add_right_comm, Nat.add_assoc]

/-- A rule that finds the first place finds the first entry. -/
theorem Scale.finds_of_placeFrom {α : Type} {S : Scale α} {x : Scalar}
    {find : Scalar → Except Fault (Option (Nat × Float))}
    (h : find x = .ok (placeFrom (fun e => S.accepts e x) S.number 0 S.entries)) :
    S.Finds find x := by
  rw [Scale.Finds, h, placeFrom]
  simp only [Nat.zero_add]
  rfl

namespace Mapping

/-- Only texts are compared in a way of their own. -/
theorem accepts_of_ne_string {s : Scalar} (h : s.baseType ≠ .string) (e : MapEntry) :
    e.accepts s = e.key.same s := by
  unfold MapEntry.accepts
  split
  · exact absurd rfl h
  · rfl

/-- A key does not tell answers apart that are the same. -/
theorem accepts_congr (e : MapEntry) (x y : Scalar) (h : x.same y = true) :
    e.accepts x = e.accepts y := by
  have htype : x.baseType = y.baseType := Scalar.baseType_eq_of_same h
  by_cases hx : x.baseType = .string
  · cases x <;> cases hx
    cases y <;> cases htype
    rw [eq_of_beq h]
  · rw [accepts_of_ne_string hx, accepts_of_ne_string (htype ▸ hx), Scalar.same_comm,
      Scalar.same_comm e.key, Scalar.same_congr h]

theorem findEntry_eq (s : Scalar) (i : Nat) (l : List MapEntry) :
    findEntry s i l = placeFrom (fun e => e.accepts s) MapEntry.mappedValue i l := by
  induction l generalizing i with
  | nil => rfl
  | cons e l ih => rw [findEntry, placeFrom_cons, ih]

/-- The scale of a mapping. -/
def scale (m : Mapping) : Scale MapEntry where
  entries := m.entries
  accepts := MapEntry.accepts
  accepts_congr := accepts_congr
  number := MapEntry.mappedValue
  default := m.defaultValue
  lower := m.lowerBound
  upper := m.upperBound

/-- What a mapping adds for a response. -/
def addends (m : Mapping) (identifier : String) : Value → Except Fault (List Float) :=
  m.scale.addends (fun s => .ok (findEntry s 0 m.entries)) identifier

theorem apply_eq (m : Mapping) (identifier : String) (v : Value) :
    m.apply identifier v = (m.addends identifier v).map (score m.lowerBound m.upperBound) :=
  scored_eq (answers identifier v) _ _

theorem governs (m : Mapping) (identifier : String) :
    m.scale.Governs (fun _ => True) (m.addends identifier) (m.apply identifier) := by
  rw [funext (m.apply_eq identifier)]
  exact Scale.governs_of_finds
    (fun s _ => Scale.finds_of_placeFrom (congrArg Except.ok (findEntry_eq s 0 m.entries)))
    identifier

end Mapping

/-! ## Areas -/

/-- The number and kind of coordinates that a shape needs. -/
def Shape.Fits : Shape → List Float → Prop
  | .default, _ => True
  | .rect, coords => coords.length = 4
  | .circle, coords => coords.length = 3
  | .ellipse, coords => ∃ cx cy hr vr, coords = [cx, cy, hr, vr] ∧ ¬ hr ≤ 0.0 ∧ ¬ vr ≤ 0.0
  | .poly, coords => 6 ≤ coords.length ∧ coords.length % 2 = 0

/-- **Well-formed areas** are those that can be told to hold a point or not. -/
theorem Shape.fits_iff (shape : Shape) (coords : List Float) (x y : Float) :
    shape.Fits coords ↔ ∃ b, shape.contains coords x y = .ok b := by
  cases shape with
  | default => exact iff_of_true trivial ⟨true, rfl⟩
  | rect =>
    unfold Fits contains
    constructor
    · intro h
      match coords, h with
      | [l, t, r, b], _ => exact ⟨_, rfl⟩
    · rintro ⟨b, h⟩
      dsimp only at h
      split at h
      · rfl
      · cases h
  | circle =>
    unfold Fits contains
    constructor
    · intro h
      match coords, h with
      | [cx, cy, radius], _ => exact ⟨_, rfl⟩
    · rintro ⟨b, h⟩
      dsimp only at h
      split at h
      · rfl
      · cases h
  | ellipse =>
    unfold Fits contains
    constructor
    · rintro ⟨cx, cy, hr, vr, rfl, hh, hv⟩
      have hradii : (decide (hr ≤ 0.0) || decide (vr ≤ 0.0)) = false := by simp [hh, hv]
      exact ⟨_, if_neg (ne_true_of_eq_false hradii)⟩
    · rintro ⟨b, h⟩
      dsimp only at h
      split at h
      · rename_i cx cy hr vr
        split at h
        · cases h
        · rename_i hradii
          rw [Bool.or_eq_true, decide_eq_true_eq, decide_eq_true_eq, not_or] at hradii
          exact ⟨cx, cy, hr, vr, rfl, hradii⟩
      · cases h
  | poly =>
    have hcount : (decide (coords.length < 6) || coords.length % 2 != 0) = true ↔
        ¬ (6 ≤ coords.length ∧ coords.length % 2 = 0) := by
      simp only [Bool.or_eq_true, decide_eq_true_eq, bne_iff_ne]
      omega
    unfold Fits contains
    by_cases h : 6 ≤ coords.length ∧ coords.length % 2 = 0
    · exact iff_of_true h ⟨_, if_neg fun hc => hcount.1 hc h⟩
    · refine iff_of_false h ?_
      rintro ⟨b, hb⟩
      dsimp only at hb
      rw [if_pos (hcount.2 h)] at hb
      cases hb

namespace AreaMapping

variable {m : AreaMapping}

/-- The coordinates of an area fit its shape. -/
def WellFormed (m : AreaMapping) : Prop := ∀ e ∈ m.entries, e.shape.Fits e.coords

/-- Whether a point lies in an area. -/
def holds (e : AreaMapEntry) : Scalar → Bool
  | .point x y =>
    match e.shape.contains e.coords (toFloat x) (toFloat y) with
    | .ok b => b
    | .error _ => false
  | _ => false

/-- An area does not tell answers apart that are the same. -/
theorem holds_congr (e : AreaMapEntry) (x y : Scalar) (h : x.same y = true) :
    holds e x = holds e y := by
  cases x <;> cases y <;> try rfl
  all_goals try cases h
  case point.point a b c d =>
    simp only [Scalar.same, Bool.and_eq_true, beq_iff_eq] at h
    rw [h.1, h.2]

theorem findArea_eq (x y : Int64) {l : List AreaMapEntry}
    (h : ∀ e ∈ l, e.shape.Fits e.coords) (i : Nat) :
    findArea (toFloat x) (toFloat y) i l =
      .ok (placeFrom (fun e => holds e (.point x y)) AreaMapEntry.mappedValue i l) := by
  induction l generalizing i with
  | nil => rfl
  | cons e l ih =>
    obtain ⟨he, hl⟩ := List.forall_mem_cons.1 h
    obtain ⟨b, hb⟩ := (e.shape.fits_iff e.coords (toFloat x) (toFloat y)).1 he
    have hholds : holds e (.point x y) = b := by rw [holds, hb]
    rw [findArea, placeFrom_cons, hholds, hb]
    cases b with
    | true => rfl
    | false => exact ih hl (i + 1)

/-- The scale of an area mapping. -/
def scale (m : AreaMapping) : Scale AreaMapEntry where
  entries := m.entries
  accepts := holds
  accepts_congr := holds_congr
  number := AreaMapEntry.mappedValue
  default := m.defaultValue
  lower := m.lowerBound
  upper := m.upperBound

/-- What an area mapping adds for a response. -/
def addends (m : AreaMapping) (identifier : String) : Value → Except Fault (List Float) :=
  m.scale.addends (m.findEntry identifier) identifier

theorem apply_eq (m : AreaMapping) (identifier : String) (v : Value) :
    m.apply identifier v = (m.addends identifier v).map (score m.lowerBound m.upperBound) :=
  scored_eq (answers identifier v) _ _

theorem governs (h : m.WellFormed) (identifier : String) :
    m.scale.Governs (fun s => s.baseType = .point) (m.addends identifier)
      (m.apply identifier) := by
  rw [funext (m.apply_eq identifier)]
  refine Scale.governs_of_finds (fun s hs => Scale.finds_of_placeFrom ?_) identifier
  cases s <;> cases hs
  exact findArea_eq _ _ h 0

end AreaMapping

/-- **Each entry and each distinct answer counts once.** A mapping scores every response by the law
of its scale, and so does an area mapping of well-formed areas every response of points. -/
theorem scales_govern :
    (∀ (m : Mapping) (identifier : String),
      m.scale.Governs (fun _ => True) (m.addends identifier) (m.apply identifier)) ∧
    ∀ (m : AreaMapping) (identifier : String), m.WellFormed →
      m.scale.Governs (fun s => s.baseType = .point) (m.addends identifier)
        (m.apply identifier) :=
  ⟨Mapping.governs, fun _ identifier h => AreaMapping.governs h identifier⟩

/-- A circle within a rectangle, one half for what misses both, and at most three halves. -/
def targets : AreaMapping :=
  ⟨none, some 1.5, 0.5, [⟨.circle, [10.0, 10.0, 5.0], 1.0⟩,
    ⟨.rect, [0.0, 0.0, 100.0, 100.0], 0.25⟩]⟩

/-- Two points in the circle, one more in the rectangle and one outside. -/
def fourPoints : Container :=
  ⟨.point, [.point 10 11, .point 9 9, .point 50 50, .point 500 0], by decide⟩

/-- Both areas and the default count once for the four points, and the sum is cut off. -/
theorem targets_govern :
    targets.WellFormed ∧ targets.scale.tally fourPoints.items = {1.0, 0.25, 0.5} ∧
      targets.apply "P" (.multiple fourPoints) = .ok 1.5 := by
  have hfits : targets.WellFormed := by
    intro e he
    simp only [targets, List.mem_cons, List.not_mem_nil, or_false] at he
    rcases he with rfl | rfl <;> rfl
  obtain ⟨xs, hxs, htally, hscore⟩ := (scales_govern.2 targets "P" hfits).tally _ _
    (.multiple fourPoints) (by decide)
  have hadded : targets.addends "P" (.multiple fourPoints) = .ok [1.0, 0.25, 0.5] := by
    decide +kernel
  cases hxs.symm.trans hadded
  exact ⟨hfits, htally.symm, by rw [hscore]; decide⟩

end Assessment
