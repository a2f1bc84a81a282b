import Assessment.Proofs.Expr.Computation
import Assessment.Proofs.Value.Finite

/-!
# Building containers

`multiple` and `ordered` put the elements of their operands one after the other; an operand that
counts as NULL adds none. So operands may be put together in groups first, each group in a container
of its own, and a repetition is the same elements over and over.

The code is `flatten` and `build_container`, and the arm repeat of `eval_expr`. An operand may be a
container or a single value; a container in another order of elements, or one of another base type,
has its own faults, which groups share with the whole. That is why the statement about groups is an
equivalence: the one evaluates to a value exactly when the other does.

* `Value.Collects`: the value that a list of elements makes, NULL without elements.
* `Expr.runOn_collect_iff`: what `multiple` and `ordered` evaluate to, and when they do.
* `Expr.eval_collect`: groups make no difference, and the elements of a repetition come round.
-/

namespace Assessment

/-! ## Elements and the values they make -/

namespace Value

variable {ordered : Bool} {l : List Scalar} {v : Value} {op : String}

/-- The elements that an operand adds to a container: none when it counts as NULL. -/
def elements (v : Value) : List Scalar := if v.isNull then [] else v.scalars

/-- The sequence or the multiset of a container. -/
def ofContainer (ordered : Bool) (c : Container) : Value :=
  if ordered then .ordered c else .multiple c

/-- An operand fits into a container: it counts as NULL, is single or has the container's
cardinality. -/
def Contributes (ordered : Bool) (v : Value) : Prop :=
  v.isNull = true ∨ v.cardinality? = some .single ∨
    v.cardinality? = some (if ordered then .ordered else .multiple)

/-- **The value that elements make**: NULL without elements, and else a container of them. -/
inductive Collects (ordered : Bool) : List Scalar → Value → Prop
  | none : Collects ordered [] .null
  | some {l : List Scalar} {c : Container} :
      l ≠ [] → c.items = l → Collects ordered l (ofContainer ordered c)

theorem elementsOf_eq_ok_iff :
    elementsOf op ordered v = .ok l ↔ v.Contributes ordered ∧ l = v.elements := by
  rw [elementsOf, elements, Contributes]
  by_cases hnull : v.isNull
  · simp [hnull, eq_comm]
  rw [if_neg hnull, if_neg hnull]
  cases v with
  | null => exact absurd rfl hnull
  | single s => simp [cardinality?, scalars, eq_comm (a := l)]
  | multiple c | ordered c =>
    cases ordered <;> simp [hnull, cardinality?, scalars, eq_comm (a := l)]
  | record fields => cases ordered <;> simp [hnull, cardinality?]

theorem flatten_eq_ok_iff : ∀ {vs : List Value} {l : List Scalar},
    flatten op ordered vs = .ok l ↔ (∀ v ∈ vs, v.Contributes ordered) ∧ l = vs.flatMap elements
  | [], l => by simp [flatten, eq_comm]
  | v :: vs, l => by
    rw [flatten, bind_eq_ok_iff, List.forall_mem_cons, List.flatMap_cons]
    constructor
    · rintro ⟨items, hv, h⟩
      obtain ⟨more, hvs, h⟩ := bind_eq_ok_iff.1 h
      cases h
      obtain ⟨hhead, rfl⟩ := elementsOf_eq_ok_iff.1 hv
      obtain ⟨htail, rfl⟩ := flatten_eq_ok_iff.1 hvs
      exact ⟨⟨hhead, htail⟩, rfl⟩
    · rintro ⟨⟨hv, hvs⟩, rfl⟩
      exact ⟨_, elementsOf_eq_ok_iff.2 ⟨hv, rfl⟩,
        bind_eq_ok_iff.2 ⟨_, flatten_eq_ok_iff.2 ⟨hvs, rfl⟩, rfl⟩⟩

theorem containerValue_eq_ok_iff : containerValue ordered l = .ok v ↔ Collects ordered l v := by
  cases l with
  | nil =>
    constructor
    · intro h
      cases h
      exact .none
    · intro h
      cases h with
      | none => rfl
      | some hl _ => exact absurd rfl hl
  | cons s l =>
    rw [containerValue, bind_eq_ok_iff]
    constructor
    · rintro ⟨c, hc, h⟩
      cases h
      exact .some (List.cons_ne_nil _ _) (Container.ofList_eq_ok_iff.1 hc).2
    · intro h
      cases h with
      | some _ hc =>
        have htype := Container.homogeneous _ s (hc ▸ List.mem_cons_self)
        exact ⟨_, Container.ofList_eq_ok_iff.2 ⟨htype.symm, hc⟩, rfl⟩

theorem isNull_ofContainer {c : Container} (hc : c.items ≠ []) :
    (ofContainer ordered c).isNull = false := by
  cases ordered <;> simp [ofContainer, isNull, Container.isEmpty, hc]

namespace Collects

theorem eq_null (h : Collects ordered [] v) : v = .null := by
  cases h with
  | none => rfl
  | some hl _ => exact absurd rfl hl

theorem exists_container (h : Collects ordered l v) (hl : l ≠ []) :
    ∃ c, v = ofContainer ordered c ∧ c.items = l := by
  cases h with
  | none => exact absurd rfl hl
  | some _ hc => exact ⟨_, rfl, hc⟩

theorem elements (h : Collects ordered l v) : v.elements = l := by
  cases h with
  | none => rfl
  | some hl hc =>
    rw [Value.elements, isNull_ofContainer (hc ▸ hl), ← hc]
    cases ordered <;> rfl

theorem items_of_ordered {c : Container} (h : Collects true l (.ordered c)) :
    l ≠ [] ∧ c.items = l := by
  generalize hv : Value.ordered c = v at h
  cases h with
  | none => cases hv
  | some hl hc =>
    cases hv
    exact ⟨hl, hc⟩

theorem contributes (h : Collects ordered l v) : v.Contributes ordered := by
  cases h with
  | none => exact .inl rfl
  | some _ _ => exact .inr (.inr (by cases ordered <;> rfl))

/-- Elements make a value when they have one base type. -/
theorem exists_iff : (∃ v, Collects ordered l v) ↔ ∃ t, ∀ s ∈ l, s.baseType = t := by
  constructor
  · rintro ⟨v, h⟩
    cases h with
    | none => exact ⟨.identifier, by simp⟩
    | @some l c _ hc => exact ⟨c.baseType, hc ▸ c.homogeneous⟩
  · rintro ⟨t, ht⟩
    by_cases hl : l = []
    · exact ⟨.null, hl ▸ .none⟩
    · have hitems : (⟨t, l, ht⟩ : Container).items = l := rfl
      exact ⟨_, .some hl hitems⟩

end Collects

end Value

/-! ## Elements over and over -/

theorem repeatList_eq_flatten (l : List Scalar) (n : Nat) :
    repeatList l n = (List.replicate n l).flatten := by
  induction n with
  | zero => rfl
  | succ n ih => rw [repeatList, ih, List.replicate_succ, List.flatten_cons]

theorem mem_repeatList {l : List Scalar} {s : Scalar} {n : Nat} (h : s ∈ repeatList l n) : s ∈ l := by
  rw [repeatList_eq_flatten] at h
  obtain ⟨m, hm, hs⟩ := List.mem_flatten.1 h
  rwa [List.eq_of_mem_replicate hm] at hs

/-- The elements of a repetition come round. -/
theorem getElem?_repeatList (l : List Scalar) (n j : Nat) :
    (repeatList l n)[j]? = if j < n * l.length then l[j % l.length]? else none := by
  induction n generalizing j with
  | zero => simp [repeatList]
  | succ n ih =>
    rw [repeatList, Nat.succ_mul]
    rcases Nat.lt_or_ge j l.length with hj | hj
    · rw [List.getElem?_append_left hj, if_pos (by omega), Nat.mod_eq_of_lt hj]
    · rw [List.getElem?_append_right hj, ih, Nat.mod_eq_sub_mod hj]
      exact if_congr (by omega) rfl rfl

/-! ## Operands and their elements -/

namespace Expr

open Eval Value

variable {σ : Type} {env : Environment σ} {store : Store} {ordered : Bool} {t u : Trail σ}
  {es fs : List Expr} {l : List Scalar} {v : Value}

/-- `ordered` or `multiple`, applied to operands. -/
def collect (ordered : Bool) (es : List Expr) : Expr :=
  .variadic (if ordered then .ordered else .multiple) es

/-- Operands have values that add elements to a container. -/
def Lists (env : Environment σ) (store : Store) (ordered : Bool) (es : List Expr) (t : Trail σ)
    (l : List Scalar) (u : Trail σ) : Prop :=
  ∃ vs, (evalAll env store es).runOn t = (.ok vs, u) ∧ (∀ v ∈ vs, v.Contributes ordered) ∧
    l = vs.flatMap elements

/-- **What `multiple` and `ordered` evaluate to**: the value that the elements of the operands
make. -/
theorem runOn_collect_iff :
    ((collect ordered es).eval env store).runOn t = (.ok v, u) ↔
      ∃ l, Lists env store ordered es t l u ∧ Collects ordered l v := by
  have hbuild (vs : List Value) :
      (if ordered then VariadicOp.ordered else .multiple).apply vs = .ok v ↔
        ∃ l, ((∀ v ∈ vs, v.Contributes ordered) ∧ l = vs.flatMap elements) ∧
          Collects ordered l v := by
    cases ordered <;>
      simp only [VariadicOp.apply, buildContainer, bind_eq_ok_iff, flatten_eq_ok_iff,
        containerValue_eq_ok_iff, if_true, if_false, Bool.false_eq_true]
  rw [collect, eval, runOn_bind_eq_ok_iff]
  constructor
  · rintro ⟨vs, w, hvs, h⟩
    obtain ⟨hv, rfl⟩ := Prod.mk.inj h
    obtain ⟨l, ⟨hall, hl⟩, hcollects⟩ := (hbuild vs).1 hv
    exact ⟨l, ⟨vs, hvs, hall, hl⟩, hcollects⟩
  · rintro ⟨l, ⟨vs, hvs, hall, hl⟩, hcollects⟩
    exact ⟨vs, u, hvs, Prod.ext ((hbuild vs).2 ⟨l, ⟨hall, hl⟩, hcollects⟩) rfl⟩

theorem lists_nil_iff : Lists env store ordered [] t l u ↔ l = [] ∧ u = t := by
  simp only [Lists, runOn_evalAll_nil_iff]
  constructor
  · rintro ⟨vs, ⟨rfl, rfl⟩, -, rfl⟩
    exact ⟨rfl, rfl⟩
  · rintro ⟨rfl, rfl⟩
    exact ⟨[], ⟨rfl, rfl⟩, by simp, rfl⟩

theorem lists_cons_iff {e : Expr} :
    Lists env store ordered (e :: es) t l u ↔
      ∃ v w m, (e.eval env store).runOn t = (.ok v, w) ∧ v.Contributes ordered ∧
        Lists env store ordered es w m u ∧ l = v.elements ++ m := by
  simp only [Lists, runOn_evalAll_cons_iff]
  constructor
  · rintro ⟨_, ⟨v, w, vs, hv, hvs, rfl⟩, hall, rfl⟩
    obtain ⟨hhead, htail⟩ := List.forall_mem_cons.1 hall
    exact ⟨v, w, _, hv, hhead, ⟨vs, hvs, htail, rfl⟩, rfl⟩
  · rintro ⟨v, w, m, hv, hhead, ⟨vs, hvs, htail, rfl⟩, rfl⟩
    exact ⟨v :: vs, ⟨v, w, vs, hv, hvs, rfl⟩, List.forall_mem_cons.2 ⟨hhead, htail⟩, rfl⟩

theorem lists_append_iff :
    Lists env store ordered (es ++ fs) t l u ↔
      ∃ w m n, Lists env store ordered es t m w ∧ Lists env store ordered fs w n u ∧
        l = m ++ n := by
  induction es generalizing t l with
  | nil => simp [lists_nil_iff]
  | cons e es ih =>
    simp only [List.cons_append, lists_cons_iff, ih]
    constructor
    · rintro ⟨v, w, _, hv, hhead, ⟨w', m, n, hm, hn, rfl⟩, rfl⟩
      exact ⟨w', _, n, ⟨v, w, m, hv, hhead, hm, rfl⟩, hn, (List.append_assoc ..).symm⟩
    · rintro ⟨w', _, n, ⟨v, w, m, hv, hhead, hm, rfl⟩, hn, rfl⟩
      exact ⟨v, w, m ++ n, hv, hhead, ⟨w', m, n, hm, hn, rfl⟩, List.append_assoc ..⟩

/-- Operands in groups add the same elements, as long as these have one base type. -/
theorem lists_groups_iff (hl : ∃ b, ∀ s ∈ l, s.baseType = b) :
    ∀ {groups : List (List Expr)} {t : Trail σ},
      Lists env store ordered (groups.map (collect ordered)) t l u ↔
        Lists env store ordered groups.flatten t l u := by
  intro groups
  induction groups generalizing l with
  | nil => exact Iff.rfl
  | cons g groups ih =>
    intro t
    rw [List.map_cons, List.flatten_cons, lists_cons_iff, lists_append_iff]
    -- The elements of a group are among all of them, so they have one base type and make a value.
    obtain ⟨b, hb⟩ := hl
    constructor
    · rintro ⟨v, w, m, hv, -, hm, rfl⟩
      obtain ⟨k, hk, hcollects⟩ := runOn_collect_iff.1 hv
      have htype : ∀ s ∈ m, s.baseType = b := fun s hs => hb s (List.mem_append_right _ hs)
      exact ⟨w, k, m, hk, (ih ⟨b, htype⟩).1 hm, by rw [hcollects.elements]⟩
    · rintro ⟨w, k, m, hk, hm, rfl⟩
      have htype : ∀ s ∈ m, s.baseType = b := fun s hs => hb s (List.mem_append_right _ hs)
      have hmakes : ∃ v, Collects ordered k v :=
        Collects.exists_iff.2 ⟨b, fun s hs => hb s (List.mem_append_left m hs)⟩
      obtain ⟨v, hv⟩ := hmakes
      exact ⟨v, w, m, runOn_collect_iff.2 ⟨k, hk, hv⟩, hv.contributes, (ih ⟨b, htype⟩).2 hm,
        by rw [hv.elements]⟩

/-! ## Places in a repetition -/

/-- The place of an element in one round of `k`, counted from one. -/
def placeInRound (k : Nat) (i : Int64) : Int64 := .ofInt ((i.toInt - 1) % k + 1)

theorem toInt_placeInRound (k : Nat) {i : Int64} (hi : 1 ≤ i.toInt) :
    (placeInRound k i).toInt = ((i.toInt - 1).toNat % k : Nat) + 1 := by
  have hround : (i.toInt - 1) % k = ((i.toInt - 1).toNat % k : Nat) := by
    rw [Int.natCast_emod, Int.toNat_of_nonneg (by omega)]
  have hle := Nat.mod_le (i.toInt - 1).toNat k
  have hlt := i.toInt_lt
  rw [placeInRound, hround]
  exact Int64.toInt_ofInt_of_le (by omega) (by omega)

theorem elementAt_of_pos {i : Int64} (hi : 1 ≤ i.toInt) (l : List Scalar) :
    elementAt l i = l[(i.toInt - 1).toNat]? := by
  rw [elementAt, if_neg (by omega)]

theorem elementAt_repeatList (l : List Scalar) (n : Nat) (i : Int64) :
    elementAt (repeatList l n) i =
      if 1 ≤ i.toInt ∧ i.toInt ≤ n * l.length then elementAt l (placeInRound l.length i)
      else none := by
  by_cases hi : 1 ≤ i.toInt
  · have hplace := toInt_placeInRound l.length hi
    rw [elementAt_of_pos hi, getElem?_repeatList, elementAt_of_pos (by omega), hplace,
      Int.add_sub_cancel, Int.toNat_natCast]
    have hlt : (i.toInt - 1).toNat < n * l.length ↔ 1 ≤ i.toInt ∧ i.toInt ≤ n * l.length := by
      rw [← Int.natCast_mul]
      omega
    exact if_congr hlt rfl rfl
  · rw [elementAt, if_pos (by omega), if_neg (by omega)]

/-- A repetition evaluates to what its elements make, as often as it says. -/
theorem runOn_repetition {count : IntegerAttribute} {n : Int64}
    (hcount : count.resolve "repeat" store = .ok (some n)) (hes : Lists env store true es t l u)
    (hv : Collects true l v) :
    ∃ w, ((Expr.repetition count es).eval env store).runOn t = (.ok w, u) ∧
      Collects true (repeatList l n.toInt.toNat) w := by
  obtain ⟨vs, hvs, hall, hl⟩ := hes
  obtain ⟨b, hb⟩ := Collects.exists_iff.1 ⟨v, hv⟩
  have hmakes : ∃ w, Collects true (repeatList l n.toInt.toNat) w :=
    Collects.exists_iff.2 ⟨b, fun s hs => hb s (mem_repeatList hs)⟩
  obtain ⟨w, hw⟩ := hmakes
  have hrepeat : repeatValues "repeat" n vs = .ok w := by
    have hvalue := containerValue_eq_ok_iff.2 hw
    rw [repeatValues]
    split
    · rename_i hneg
      rwa [Int.toNat_of_nonpos hneg.le] at hvalue
    · refine bind_eq_ok_iff.2 ⟨l, flatten_eq_ok_iff.2 ⟨hall, hl⟩, ?_⟩
      split
      · rename_i hempty
        rwa [List.isEmpty_iff.1 hempty, repeatList_eq_flatten, List.flatten_replicate_nil] at hvalue
      · exact hvalue
  refine ⟨w, ?_, hw⟩
  rw [eval, hcount, runOn_bind_of_ok (runOn_ofExcept _ _)]
  exact (runOn_bind_of_ok hvs).trans (by rw [runOn_ofExcept, hrepeat])

/-- The element at a place of what an expression gives. -/
def elementOf (e : Expr) (i : Int64) : Expr := .unary (.index (.value i)) e

theorem runOn_elementOf {e : Expr} (i : Int64) (he : (e.eval env store).runOn t = (.ok v, u))
    (hv : Collects true l v) :
    ((e.elementOf i).eval env store).runOn t = (.ok (.ofScalar? (elementAt l i)), u) := by
  have hplace : (IntegerAttribute.value i).resolve "index" store = .ok (some i) := rfl
  have happly : (UnaryOp.index (.value i)).apply env.patterns store v =
      .ok (.ofScalar? (elementAt l i)) := by
    cases hv with
    | none =>
      have hnothing : elementAt [] i = Option.none := by
        rw [elementAt]
        split <;> rfl
      rw [hnothing]
      rfl
    | @some l c hl hc =>
      have hnull : (ofContainer true c).isNull = false := isNull_ofContainer (hc ▸ hl)
      show unlessNull (ofContainer true c) (fun _ => indexOf "index" i (ofContainer true c)) = _
      rw [unlessNull, hnull, ← hc]
      rfl
  rw [elementOf, eval, runOn_bind_of_ok he, runOn_ofExcept, happly]

/-- **Building containers.** `ordered` and `multiple` evaluate to the value that the elements of
their operands make, one after the other. They do so for operands in groups, each in a container of
its own, exactly when they do for the operands alone, with the same value. A repetition is NULL for
no time and without elements, and else the sequence of the elements as often as it says: its places
go through those of a single round, and there is nothing at any other place. -/
theorem eval_collect (env : Environment σ) (store : Store) (t : Trail σ) :
    (∀ (ordered : Bool) (groups : List (List Expr)) (v : Value) (u : Trail σ),
      ((collect ordered groups.flatten).eval env store).runOn t = (.ok v, u) ↔
        ((collect ordered (groups.map (collect ordered))).eval env store).runOn t = (.ok v, u)) ∧
    (∀ (ordered : Bool) (es : List Expr) (v : Value) (u : Trail σ),
      ((collect ordered es).eval env store).runOn t = (.ok v, u) ↔
        ∃ vs, (evalAll env store es).runOn t = (.ok vs, u) ∧
          (∀ w ∈ vs, w.Contributes ordered) ∧ Collects ordered (vs.flatMap elements) v) ∧
    ∀ (es : List Expr) (v : Value) (u : Trail σ),
      ((collect true es).eval env store).runOn t = (.ok v, u) →
      ∀ (count : IntegerAttribute) (n : Int64), count.resolve "repeat" store = .ok (some n) →
        ∃ w, ((Expr.repetition count es).eval env store).runOn t = (.ok w, u) ∧
          (n.toInt ≤ 0 ∨ v = .null → w = .null) ∧
          (∀ c, v = .ordered c → 0 < n.toInt →
            ∃ d, w = .ordered d ∧ d.items = (List.replicate n.toInt.toNat c.items).flatten) ∧
          ∀ i : Int64,
            (((Expr.repetition count es).elementOf i).eval env store).runOn t =
              if 1 ≤ i.toInt ∧ i.toInt ≤ n.toInt * v.elements.length then
                (((collect true es).elementOf (placeInRound v.elements.length i)).eval env
                  store).runOn t
              else (.ok .null, u) := by
  refine ⟨fun ordered groups v u => ?_, fun ordered es v u => ?_,
    fun es v u hes count n hcount => ?_⟩
  · rw [runOn_collect_iff, runOn_collect_iff]
    refine exists_congr fun l => and_congr_left fun hcollects => ?_
    exact (lists_groups_iff (Collects.exists_iff.1 ⟨v, hcollects⟩)).symm
  · rw [runOn_collect_iff]
    constructor
    · rintro ⟨_, ⟨vs, hvs, hall, rfl⟩, hcollects⟩
      exact ⟨vs, hvs, hall, hcollects⟩
    · rintro ⟨vs, hvs, hall, hcollects⟩
      exact ⟨_, ⟨vs, hvs, hall, rfl⟩, hcollects⟩
  obtain ⟨l, hl, hv⟩ := runOn_collect_iff.1 hes
  obtain ⟨w, hw, hcollects⟩ := runOn_repetition hcount hl hv
  refine ⟨w, hw, fun hnull => ?_, fun c hc hn => ?_, fun i => ?_⟩
  · have hempty : repeatList l n.toInt.toNat = [] := by
      rcases hnull with hn | rfl
      · rw [Int.toNat_of_nonpos hn, repeatList]
      · rw [← hv.elements, show Value.null.elements = [] from rfl, repeatList_eq_flatten,
          List.flatten_replicate_nil]
    rw [hempty] at hcollects
    exact hcollects.eq_null
  · obtain ⟨hl, hitems⟩ := (hc ▸ hv).items_of_ordered
    have hne : repeatList l n.toInt.toNat ≠ [] := by
      rw [repeatList_eq_flatten, Ne, List.flatten_eq_nil_iff]
      intro hall
      exact hl (hall l (List.mem_replicate.2 ⟨by omega, rfl⟩))
    obtain ⟨d, hd, hrepeat⟩ := hcollects.exists_container hne
    exact ⟨d, hd, by rw [hrepeat, hitems, repeatList_eq_flatten]⟩
  · have hround : 1 ≤ i.toInt ∧ i.toInt ≤ n.toInt.toNat * l.length ↔
        1 ≤ i.toInt ∧ i.toInt ≤ n.toInt * l.length := by
      rcases le_or_gt 0 n.toInt with hn | hn
      · rw [Int.toNat_of_nonneg hn]
      · have hnone := mul_nonpos_of_nonpos_of_nonneg hn.le (Int.natCast_nonneg l.length)
        rw [Int.toNat_of_nonpos hn.le]
        omega
    rw [runOn_elementOf i hw hcollects, runOn_elementOf _ hes hv, hv.elements,
      elementAt_repeatList, if_congr hround rfl rfl]
    split <;> rfl

/-- A number, NULL, and two numbers in a group of their own. -/
def groupedNumbers : List Expr :=
  [.literal (.integer 1), .null, collect true [.literal (.integer 2), .literal (.integer 3)]]

/-- The numbers one to three. -/
def oneToThree : Container := ⟨.integer, [.integer 1, .integer 2, .integer 3], by decide⟩

/-- The fifth element of the numbers one to three in two rounds is the second of them. -/
theorem repeated_groupedNumbers :
    ((collect true groupedNumbers).eval .replay .empty).runOn (.start ⟨[], []⟩) =
        (.ok (.ordered oneToThree), .start ⟨[], []⟩) ∧
      0 < (2 : Int64).toInt ∧
      (∃ d, ((Expr.repetition (.value 2) groupedNumbers).eval .replay .empty).runOn
          (.start ⟨[], []⟩) = (.ok (.ordered d), .start ⟨[], []⟩) ∧ d.items.length = 6) ∧
      (((Expr.repetition (.value 2) groupedNumbers).elementOf 5).eval .replay .empty).runOn
          (.start ⟨[], []⟩) = (.ok (.ofInt64 2), .start ⟨[], []⟩) := by
  have hcollect : ((collect true groupedNumbers).eval .replay .empty).runOn (.start ⟨[], []⟩) =
      (.ok (.ordered oneToThree), .start ⟨[], []⟩) := by
    simp only [collect, groupedNumbers, eval, evalAll]
    rfl
  obtain ⟨-, -, hrepeat⟩ := eval_collect .replay .empty (.start ⟨[], []⟩)
  obtain ⟨w, hw, -, hrounds, hplace⟩ := hrepeat _ _ _ hcollect (.value 2) 2 rfl
  obtain ⟨d, rfl, hd⟩ := hrounds _ rfl (by decide)
  refine ⟨hcollect, by decide, ⟨d, hw, hd ▸ rfl⟩, ?_⟩
  rw [hplace 5, if_pos (by decide)]
  exact runOn_elementOf _ hcollect (.some (by decide) rfl)

end Expr

end Assessment
