import Assessment.Expr.Variadic
import Assessment.Proofs.Numeric.Divisor

/-!
# Partial primitives

Some steps have a result on a part of their arguments only: the first element of a list that has
one, runs of at least one element, a quotient by a number other than zero. Here each of them ends in
a mark of exclamation, and `none` is a breakdown: a call outside the domain. The rules built from
them break down with them.

In the program these steps are a division, a slice taken by `windows` or `chunks`, an index, and a
container whose constructor is called where it cannot refuse. The roundings of `round_to` have a
partial step of their own, which is reached and breaks down (`roundTo!`); it is no part of this
list.

* `euclid!_eq_some`, `gcd!_eq_some`, `lcm!_eq_some`: divisors are divided by what is not zero only,
  and what is divided is not negative.
* `hasRun!_eq_some`: the runs of a list as long as another that is not empty.
* `erase!_eq_some`, `widen!_eq_some`: lists that are containers without a further look.
* `Shape.contains!_eq_some`: an outline has three vertices, and each of them two coordinates.
-/

namespace Assessment

/-! ## Integers -/

namespace Numeric

variable {a b : Int64} {l : List Int64}

/-- The remainder of a number that is not negative by one that is greater than zero. -/
def remainder! (a b : Int64) : Option Int64 :=
  if 0 ≤ a.toInt ∧ 0 < b.toInt then some (a % b) else none

/-- The quotient of a number that is not negative by one that is greater than zero. -/
def quotient! (a b : Int64) : Option Int64 :=
  if 0 ≤ a.toInt ∧ 0 < b.toInt then some (a / b) else none

theorem eq_of_remainder!_eq_some {r : Int64} (h : remainder! a b = some r) : r = a % b := by
  rw [remainder!] at h
  split at h
  · exact (Option.some.inj h).symm
  · cases h

/-- Euclid's algorithm with the partial remainder. -/
def euclid! (a b : Int64) : Option Int64 :=
  if b = 0 then some a
  else
    match _h : remainder! a b with
    | none => none
    | some r => euclid! b r
termination_by b.toInt.natAbs
decreasing_by
  rw [eq_of_remainder!_eq_some _h]
  exact natAbs_toInt_mod_lt a ‹_›

/-- The greatest common divisor of two integers; the inner `none` is a magnitude that does not
fit. -/
def gcdPair! (a b : Int64) : Option (Option Int64) :=
  match abs? a, abs? b with
  | some a, some b => (euclid! a b).map some
  | _, _ => some none

/-- The greatest common divisor of all values after those whose divisor is `acc`. -/
def gcdFrom! (acc : Int64) : List Int64 → Option (Option Int64)
  | [] => some (some acc)
  | v :: rest => do
    match ← gcdPair! acc v with
    | none => pure none
    | some g => gcdFrom! g rest

/-- The greatest common divisor; zero when all values are. -/
def gcd! (values : List Int64) : Option (Option Int64) := gcdFrom! 0 values

/-- The least common multiple of all values, none of them zero, after those of multiple `acc`. -/
def lcmFrom! (acc : Int64) : List Int64 → Option (Option Int64)
  | [] => some (some acc)
  | v :: rest => do
    match ← gcdPair! acc v with
    | none => pure none
    | some g =>
      let q ← quotient! acc g
      match (abs? v).bind (mul? q) with
      | none => pure none
      | some next => lcmFrom! next rest

/-- The least common multiple; zero when a value is. -/
def lcm! (values : List Int64) : Option (Option Int64) :=
  if values.any fun v => v == 0 then some (some 0) else lcmFrom! 1 values

theorem remainder!_eq_some (ha : 0 ≤ a.toInt) (hb : 0 < b.toInt) :
    remainder! a b = some (a % b) := if_pos ⟨ha, hb⟩

/-- A number that is not negative is divided by numbers greater than zero only. -/
theorem euclid!_eq_some (ha : 0 ≤ a.toInt) (hb : 0 ≤ b.toInt) :
    euclid! a b = some (euclid a b) := by
  induction a, b using euclid.induct with
  | case1 a => rw [Numeric.euclid!, euclid, if_pos rfl, if_pos rfl]
  | case2 a b hzero ih =>
    have hpos : 0 < b.toInt := lt_of_le_of_ne hb (toInt_ne_zero hzero).symm
    have hmod : 0 ≤ (a % b).toInt := by
      rw [Int64.toInt_mod]
      exact Int.tmod_nonneg _ ha
    rw [Numeric.euclid!, if_neg hzero, euclid, if_neg hzero, ← ih hb hmod]
    split
    · rw [remainder!_eq_some ha hpos] at *
      contradiction
    · rename_i h
      rw [eq_of_remainder!_eq_some h]

theorem toInt_abs? {m : Int64} (h : abs? a = some m) : m.toInt = a.toInt.natAbs :=
  (fit?_eq_some_iff _ _).1 h

theorem gcdPair!_eq_some (a b : Int64) : gcdPair! a b = some (gcdPair? a b) := by
  rw [gcdPair!, gcdPair?]
  cases ha : abs? a with
  | none => rfl
  | some m =>
    cases hb : abs? b with
    | none => rfl
    | some n =>
      have hm : 0 ≤ m.toInt := by rw [toInt_abs? ha]; exact Int.natCast_nonneg _
      have hn : 0 ≤ n.toInt := by rw [toInt_abs? hb]; exact Int.natCast_nonneg _
      dsimp only
      rw [euclid!_eq_some hm hn]
      rfl

theorem gcdFrom!_eq_some (acc : Int64) (l : List Int64) :
    gcdFrom! acc l = some (gcdFrom? acc l) := by
  induction l generalizing acc with
  | nil => rfl
  | cons v rest ih =>
    rw [gcdFrom!, gcdFrom?, gcdPair!_eq_some]
    cases gcdPair? acc v with
    | none => rfl
    | some g => exact ih g

theorem gcd!_eq_some (l : List Int64) : gcd! l = some (gcd? l) := gcdFrom!_eq_some 0 l

theorem quotient!_eq_some (ha : 0 ≤ a.toInt) (hb : 0 < b.toInt) :
    quotient! a b = some (a / b) := if_pos ⟨ha, hb⟩

theorem toInt_div_of_nonneg (ha : 0 ≤ a.toInt) (b : Int64) :
    (a / b).toInt = Int.tdiv a.toInt b.toInt :=
  Int64.toInt_div_of_ne_left a b (ne_minValue_of_nonneg ha)

/-- The divisor of a number greater than zero and another one divides the first, to a quotient of at
least one. -/
theorem gcdPair?_pos {g : Int64} (ha : 0 < a.toInt) (h : gcdPair? a b = some g) :
    0 < g.toInt ∧ 0 < Int.tdiv a.toInt g.toInt := by
  have hb : b ≠ Int64.minValue := by
    rintro rfl
    rw [gcdPair?_minValue] at h
    cases h
  obtain ⟨d, hd, hgcd⟩ := exists_gcdPair? (ne_minValue_of_nonneg ha.le) hb
  obtain rfl : d = g := Option.some.inj (hd.symm.trans h)
  have hpos : 0 < d.toInt := by
    rw [hgcd]
    exact_mod_cast Nat.gcd_pos_of_pos_left _ (Int.natAbs_pos.2 ha.ne')
  have hdvd : d.toInt ∣ a.toInt := by
    rw [hgcd, ← Int.dvd_natAbs]
    exact_mod_cast Nat.gcd_dvd_left _ _
  refine ⟨hpos, ?_⟩
  rw [Int.tdiv_eq_ediv_of_nonneg ha.le]
  exact Int.ediv_pos_of_pos_of_dvd ha hpos.le hdvd

/-- The multiple so far is greater than zero, and so is its greatest common divisor with another
number: it is not divided by zero. -/
theorem lcmFrom!_eq_some {acc : Int64} (hacc : 0 < acc.toInt) (hl : ∀ v ∈ l, v ≠ 0) :
    lcmFrom! acc l = some (lcmFrom? acc l) := by
  induction l generalizing acc with
  | nil => rfl
  | cons v rest ih =>
    obtain ⟨hv, hrest⟩ := List.forall_mem_cons.1 hl
    rw [lcmFrom!, lcmFrom?, gcdPair!_eq_some]
    cases hg : gcdPair? acc v with
    | none => rfl
    | some g =>
      obtain ⟨hpos, hquotient⟩ := gcdPair?_pos hacc hg
      have hfit : fit? (Int.tdiv acc.toInt g.toInt) = some (acc / g) :=
        (fit?_eq_some_iff _ _).2 (toInt_div_of_nonneg hacc.le g)
      simp only [Option.bind_eq_bind, Option.bind_some, quotient!_eq_some hacc.le hpos, hfit]
      cases hm : abs? v with
      | none => rfl
      | some m =>
        cases hnext : mul? (acc / g) m with
        | none => simp [hnext]
        | some next =>
          simp only [Option.bind_some, hnext]
          -- The next multiple is a product of two numbers greater than zero.
          refine ih ?_ hrest
          have hmul : next.toInt = (acc / g).toInt * m.toInt := (fit?_eq_some_iff _ _).1 hnext
          rw [hmul, toInt_div_of_nonneg hacc.le, toInt_abs? hm]
          exact mul_pos hquotient (by exact_mod_cast Int.natAbs_pos.2 (toInt_ne_zero hv))

theorem lcm!_eq_some (l : List Int64) : lcm! l = some (lcm? l) := by
  rw [lcm!, lcm?]
  split
  · rfl
  · refine lcmFrom!_eq_some (by decide) fun v hv h => ?_
    simp_all

end Numeric

/-! ## Lists -/

section Lists

variable {α : Type}

/-- The first element of a list that has one. -/
def first! (l : List α) : Option α := l.head?

/-- The runs of `n` neighbouring elements. -/
def windows (n : Nat) : List α → List (List α)
  | [] => []
  | a :: as => if n ≤ as.length + 1 then (a :: as).take n :: windows n as else []

/-- The runs of neighbouring elements of a length of at least one. -/
def windows! (n : Nat) (l : List α) : Option (List (List α)) :=
  if n = 0 then none else some (windows n l)

end Lists

/-! ## Containers -/

namespace Container

/-- The container of scalars that all have its base type. -/
def ofList! (t : BaseType) (items : List Scalar) : Option Container :=
  match ofList t items with
  | .ok c => some c
  | .error _ => none

/-- The container of what is left of another one's elements without a scalar. -/
def erase! (c : Container) (s : Scalar) : Option Container :=
  ofList! c.baseType ((removeSame? s c.items).getD c.items)

/-- The container of another one's elements as floats. -/
def widen! (c : Container) : Option Container := ofList! .float (c.items.map widenScalar)

/-- Whether a sequence occurs among the runs as long as it is. -/
def hasRun! (inner outer : List Scalar) : Option Bool :=
  (windows! inner.length outer).map fun runs => runs.any fun run => sameList run inner

theorem ofList!_eq_some (c : Container) : ofList! c.baseType c.items = some c := by
  rw [ofList!, ofList_eq_ok_iff.2 ⟨rfl, rfl⟩]

/-- Without an element the others still have one base type. -/
theorem erase!_eq_some (c : Container) (s : Scalar) : c.erase! s = some (c.erase s) := by
  rw [erase!]
  have hitems : (removeSame? s c.items).getD c.items = (c.erase s).items := by
    rw [erase]
    split <;> simp_all
  have htype : c.baseType = (c.erase s).baseType := by
    rw [erase]
    split <;> rfl
  rw [hitems, htype, ofList!_eq_some]

theorem widen!_eq_some (c : Container) : c.widen! = some c.widen := ofList!_eq_some c.widen

theorem startsWith_eq (l inner : List Scalar) :
    startsWith l inner =
      (decide (inner.length ≤ l.length) && sameList (l.take inner.length) inner) := by
  induction inner generalizing l with
  | nil => cases l <;> rfl
  | cons b bs ih =>
    cases l with
    | nil => rfl
    | cons a as => simp [startsWith, sameList, ih, Bool.and_left_comm]

/-- A sequence that is not empty is a run of another one when it is one of its runs of that
length. -/
theorem hasRun!_eq_some {inner : List Scalar} (h : inner ≠ []) (outer : List Scalar) :
    hasRun! inner outer = some (hasRun inner outer) := by
  rw [hasRun!, windows!, if_neg (by simpa using h), Option.map_some]
  refine congrArg some ?_
  induction outer with
  | nil => cases inner <;> simp_all [windows, hasRun]
  | cons a as ih =>
    rw [windows, hasRun, startsWith_eq, ← ih]
    split
    · simp_all
    · have hshort : windows inner.length as = [] := by
        cases as with
        | nil => rfl
        | cons b bs =>
          rw [windows, if_neg]
          simp only [List.length_cons] at *
          omega
      simp_all

end Container

/-! ## Areas -/

namespace Shape

/-- The coordinates two by two, the last one alone when there is no other. -/
def chunks : List Float → List (List Float)
  | x :: y :: rest => [x, y] :: chunks rest
  | [x] => [[x]]
  | [] => []

/-- The point of two coordinates. -/
def point! : List Float → Option Point
  | [x, y] => some (x, y)
  | _ => none

/-- The polygon test for an outline of at least three vertices. -/
def inPolygon! (vertices : List Point) (p : Point) : Option Bool :=
  if vertices.length < 3 then none else some (inPolygon vertices p)

/-- Whether the area of a shape and its coordinates holds a point. -/
def contains! (shape : Shape) (coords : List Float) (x y : Float) :
    Option (Except ShapeMismatch Bool) :=
  match shape with
  | .poly =>
    if coords.length < 6 || coords.length % 2 != 0 then
      some (.error (.vertices coords.length))
    else do
      let vertices ← (chunks coords).mapM point!
      let inside ← inPolygon! vertices (x, y)
      pure (.ok inside)
  | shape => some (shape.contains coords x y)

/-- An even number of coordinates comes two by two. -/
theorem mapM_point!_chunks : ∀ {coords : List Float}, coords.length % 2 = 0 →
    (chunks coords).mapM point! = some (pairUp coords) ∧
      (pairUp coords).length = coords.length / 2
  | [], _ => ⟨rfl, rfl⟩
  | [x], h => by cases h
  | x :: y :: rest, h => by
    have heven : rest.length % 2 = 0 := by
      simp only [List.length_cons] at h
      omega
    obtain ⟨hpoints, hlength⟩ := mapM_point!_chunks heven
    constructor
    · rw [chunks, pairUp, List.mapM_cons, hpoints]
      rfl
    · rw [pairUp, List.length_cons, hlength]
      simp only [List.length_cons]
      omega

theorem contains!_eq_some (shape : Shape) (coords : List Float) (x y : Float) :
    shape.contains! coords x y = some (shape.contains coords x y) := by
  cases shape with
  | poly =>
    rw [contains!, contains]
    split
    · rfl
    · rename_i h
      simp only [Bool.or_eq_true, decide_eq_true_eq, bne_iff_ne, not_or, not_not, not_lt] at h
      obtain ⟨hpoints, hlength⟩ := mapM_point!_chunks h.2
      have hvertices : ¬(pairUp coords).length < 3 := by omega
      simp only [hpoints, Option.bind_eq_bind, Option.bind_some, inPolygon!, if_neg hvertices]
      rfl
  | _ => rfl

end Shape

end Assessment
