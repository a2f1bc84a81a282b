import Assessment.Proofs.Expr.Construction
import Assessment.Proofs.Mapping.Scoring
import Assessment.Proofs.Partial.Primitive
import Assessment.Proofs.Session.Finite

/-!
# Operators with partial primitives

The operators whose rules contain a partial primitive, with that primitive in its place. An
`Attempt` ends in a result, in a fault, or in a breakdown; a primitive that is called outside its
domain breaks the whole operator down. What guards a call stands elsewhere: operands that count as
NULL are found before, a container has elements of one base type, the flags of entries are as many
as these.

There is one attempt for each arm of `eval_expr` that has such a step, and for `flatten`, `conform`,
the mappings, the aggregates and the statistics.

* `Attempt.EndsIn`: an attempt does not break down, and ends in a given result or fault.
* `endsIn_apply!` and its like for each kind of operator: the attempt ends in what the operator
  gives.
* `Mapping.endsIn_tally!`: the loop over the answers of a mapping, whose flags say what was used.
-/

namespace Assessment

open Numeric

/-! ## Attempts -/

/-- A computation that ends in a result or a fault, or breaks down. -/
abbrev Attempt (α : Type) := ExceptT Fault Option α

namespace Attempt

variable {α β : Type}

/-- What is a result or a fault without a primitive. -/
def settled (r : Except Fault α) : Attempt α := ExceptT.mk (some r)

/-- What a primitive gives. -/
def primitive (x : Option α) : Attempt α := ExceptT.mk (x.map .ok)

/-- An attempt does not break down, and ends in a given result or fault. -/
def EndsIn (m : Attempt α) (r : Except Fault α) : Prop := m.run = some r

theorem endsIn_settled (r : Except Fault α) : EndsIn (settled r) r := rfl

theorem endsIn_pure (a : α) : EndsIn (pure a) (.ok a) := rfl

theorem endsIn_throw (e : Fault) : EndsIn (throw e : Attempt α) (.error e) := rfl

theorem endsIn_primitive {x : Option α} {a : α} (h : x = some a) :
    EndsIn (primitive x) (.ok a) := by
  rw [h]
  rfl

theorem endsIn_bind_of_ok {m : Attempt α} {a : α} {k : α → Attempt β} {r : Except Fault β}
    (hm : EndsIn m (.ok a)) (hk : EndsIn (k a) r) : EndsIn (m >>= k) r := by
  show (m.run >>= ExceptT.bindCont k) = _
  rw [hm]
  exact hk

theorem endsIn_bind_of_error {m : Attempt α} {e : Fault} (k : α → Attempt β)
    (hm : EndsIn m (.error e)) : EndsIn (m >>= k) (.error e) := by
  show (m.run >>= ExceptT.bindCont k) = _
  rw [hm]
  rfl

theorem endsIn_bind {m : Attempt α} {r : Except Fault α} {k : α → Attempt β}
    {l : α → Except Fault β} (hm : EndsIn m r) (hk : ∀ a, r = .ok a → EndsIn (k a) (l a)) :
    EndsIn (m >>= k) (r >>= l) := by
  cases r with
  | error e => exact endsIn_bind_of_error k hm
  | ok a => exact endsIn_bind_of_ok hm (hk a rfl)

theorem endsIn_map {m : Attempt α} {r : Except Fault α} (f : α → β) (hm : EndsIn m r) :
    EndsIn (do let a ← m; pure (f a)) (r.map f) := by
  cases r with
  | error e => exact endsIn_bind_of_error _ hm
  | ok a => exact endsIn_bind_of_ok hm (endsIn_pure _)

/-- A primitive that is called inside its domain goes on with what it gives. -/
theorem endsIn_primitive_bind {x : Option α} {a : α} {k : α → Attempt β} {r : Except Fault β}
    (h : x = some a) (hk : EndsIn (k a) r) : EndsIn (primitive x >>= k) r :=
  endsIn_bind_of_ok (endsIn_primitive h) hk

/-- Scalars of one base type become a container. -/
theorem endsIn_ofList! {t : BaseType} {items : List Scalar}
    (h : ∀ s ∈ items, s.baseType = t) (f : Container → α) :
    EndsIn (do let c ← primitive (Container.ofList! t items); pure (f c))
      ((Container.ofList t items).map f) := by
  let c : Container := ⟨t, items, h⟩
  have hlist : Container.ofList t items = .ok c := Container.ofList_eq_ok_iff.2 ⟨rfl, rfl⟩
  rw [hlist]
  exact endsIn_primitive_bind (Container.ofList!_eq_some c) (endsIn_pure _)

end Attempt

open Attempt

/-! ## One operand -/

/-- Whether an area holds one of the points. -/
def anyInside! (op : String) (shape : Shape) (coords : List Float) : List Scalar → Attempt Bool
  | [] => pure false
  | .point x y :: rest => do
    match ← primitive (shape.contains! coords (toFloat x) (toFloat y)) with
    | .error m => throw (.invalidAttribute op m.message)
    | .ok true => pure true
    | .ok false => anyInside! op shape coords rest
  | s :: _ => throw (.baseTypeMismatch op "point" s.baseType.name)

/-- An operator on the value of its operand. -/
def UnaryOp.apply! (op : UnaryOp) (patterns : Pattern.Engine) (store : Store) (v : Value) :
    Attempt Value :=
  match op with
  | inside shape coords =>
    if v.isNull then pure .null
    else do
      let points ← settled (pointsOf op.name v)
      let b ← anyInside! op.name shape coords points
      pure (.ofBool b)
  | op => settled (op.apply patterns store v)

theorem endsIn_anyInside! (op : String) (shape : Shape) (coords : List Float)
    (ss : List Scalar) :
    EndsIn (anyInside! op shape coords ss) (anyInside op shape coords ss) := by
  induction ss with
  | nil => exact endsIn_pure _
  | cons s rest ih =>
    cases s with
    | point x y =>
      rw [anyInside!, anyInside]
      refine endsIn_primitive_bind (shape.contains!_eq_some coords _ _) ?_
      cases shape.contains coords (toFloat x) (toFloat y) with
      | error m => exact endsIn_throw _
      | ok b =>
        cases b with
        | false => exact ih
        | true => exact endsIn_pure _
    | _ => exact endsIn_throw _

theorem UnaryOp.endsIn_apply! (op : UnaryOp) (patterns : Pattern.Engine) (store : Store)
    (v : Value) :
    EndsIn (op.apply! patterns store v) (op.apply patterns store v) := by
  cases op with
  | inside shape coords =>
    rw [apply!, apply, unlessNull]
    split
    · exact endsIn_pure _
    · refine endsIn_bind (endsIn_settled _) fun points _ => ?_
      exact endsIn_bind (endsIn_anyInside! _ shape coords points) fun b _ =>
        endsIn_pure _
  | _ => exact endsIn_settled _

/-! ## Two operands -/

/-- Whether a container has all elements of another: for sequences, whether the inner one is among
the runs of its length. -/
def containsAll! (op : String) (outer inner : Value) : Attempt Value := do
  settled (requireSameBaseType op outer.baseType? inner.baseType?)
  match outer, inner with
  | .multiple c, .multiple d => pure (.ofBool (Container.includes c.items d.items))
  | .ordered c, .ordered d => do
    let found ← primitive (Container.hasRun! d.items c.items)
    pure (.ofBool found)
  | a, b =>
    throw (.cardinalityMismatch op "two multiple or two ordered containers"
      (a.describe ++ " and " ++ b.describe))

/-- An operator on the values of its two operands. -/
def BinaryOp.apply! (op : BinaryOp) (store : Store) (a b : Value) : Attempt Value :=
  match op with
  | delete =>
    if a.isNull || b.isNull then pure .null
    else do
      let (s, c) ← settled (elementAndContainer op.name a b)
      let remaining ← primitive (c.erase! s)
      pure (rebuild b remaining)
  | contains =>
    if a.isNull || b.isNull then pure .null
    else containsAll! op.name a b
  | op => settled (op.apply store a b)

theorem items_ne_nil_of_isNull {c : Container} (h : (Value.ordered c).isNull = false) :
    c.items ≠ [] := by
  simpa [Value.isNull, Container.isEmpty] using h

theorem endsIn_containsAll! (op : String) {a b : Value} (hb : b.isNull = false) :
    EndsIn (containsAll! op a b) (containsAll op a b) := by
  refine endsIn_bind (endsIn_settled _) fun _ _ => ?_
  cases a with
  | multiple c =>
    cases b with
    | multiple d => exact endsIn_pure _
    | _ => exact endsIn_throw _
  | ordered c =>
    cases b with
    | ordered d =>
      exact endsIn_primitive_bind
        (Container.hasRun!_eq_some (items_ne_nil_of_isNull hb) c.items) (endsIn_pure _)
    | _ => exact endsIn_throw _
  | _ => exact endsIn_throw _

theorem BinaryOp.endsIn_apply! (op : BinaryOp) (store : Store) (a b : Value) :
    EndsIn (op.apply! store a b) (op.apply store a b) := by
  cases op with
  | delete =>
    rw [apply!, apply, unlessEitherNull]
    split
    · exact endsIn_pure _
    · refine endsIn_bind (endsIn_settled _) fun p _ => ?_
      exact endsIn_primitive_bind (p.2.erase!_eq_some p.1) (endsIn_pure _)
  | contains =>
    rw [apply!, apply, unlessEitherNull]
    split
    · exact endsIn_pure _
    · rename_i hnull
      rw [Bool.not_eq_true, Bool.or_eq_false_iff] at hnull
      exact endsIn_containsAll! _ hnull.2
  | _ => exact endsIn_settled _

/-! ## Several operands -/

/-- The greatest or least of numbers, from the first one on. -/
def extremeNumber! (want : Ordering) (ns : List Number) : Option Value :=
  (first! ns).map fun n =>
    match bestFrom want n ns.tail, (allIntegers? ns).isSome with
    | .integer i, true => .ofInt64 i
    | best, _ => .ofFloat best.toFloat

/-- Applies a rule to the numbers of all operands. -/
def onAllNumbers! (op : String) (vs : List Value) (f : List Number → Option Value) :
    Attempt Value := do
  match ← settled (numbersOf op vs) with
  | none => pure .null
  | some ns => primitive (f ns)

/-- Applies a rule to the integers of all operands. -/
def onAllIntegers! (op : String) (vs : List Value) (f : List Int64 → Option (Option Int64)) :
    Attempt Value := do
  match ← settled (integersOf op vs) with
  | none => pure .null
  | some is =>
    let r ← primitive (f is)
    pure (.ofInt64? r)

/-- An operator on the values of its operands. -/
def VariadicOp.apply! (op : VariadicOp) (vs : List Value) : Attempt Value :=
  match op with
  | max => onAllNumbers! op.name vs (extremeNumber! .gt)
  | min => onAllNumbers! op.name vs (extremeNumber! .lt)
  | gcd => onAllIntegers! op.name vs gcd!
  | lcm => onAllIntegers! op.name vs lcm!
  | op => settled (op.apply vs)

/-- The sequence of the elements of all operands, a number of times over. Elements of one base type
become a container without a further look. -/
def repeatValues! (op : String) (n : Int64) (vs : List Value) : Attempt Value :=
  if n.toInt < 0 then pure .null
  else do
    match ← settled (flatten op true vs) with
    | [] => pure .null
    | s :: rest =>
      let repeated := repeatList (s :: rest) n.toInt.toNat
      if n.toInt = 0 then pure .null
      else if (s :: rest).all fun x => x.baseType = s.baseType then do
        let c ← primitive (Container.ofList! s.baseType repeated)
        pure (.ordered c)
      else settled ((Container.ofList s.baseType repeated).map .ordered)

/-- A function of the first operand, and of the second where there is one. -/
def functionValue! (op : String) (f : Function) (vs : List Value) : Attempt Value :=
  if vs.any Value.isNull then pure .null
  else do
    let a ← primitive (first! vs)
    let x ← settled (numberOf op a)
    match vs[1]? with
    | none => pure (applyFunction f x 0.0)
    | some b => do
      let y ← settled (numberOf op b)
      pure (applyFunction f x y.toFloat)

theorem extremeNumber!_eq_some (want : Ordering) {ns : List Number} (h : ns ≠ []) :
    extremeNumber! want ns = some (extremeNumber want ns) := by
  cases ns with
  | nil => exact absurd rfl h
  | cons n rest => rfl

theorem numbersOfScalars_ne_nil {op : String} {ss : List Scalar} {ns : List Number}
    (hs : ss ≠ []) (h : numbersOfScalars op ss = .ok ns) : ns ≠ [] := by
  cases ss with
  | nil => exact absurd rfl hs
  | cons s rest =>
    obtain ⟨n, -, h⟩ := bind_eq_ok_iff.1 h
    obtain ⟨more, -, h⟩ := bind_eq_ok_iff.1 h
    cases h
    exact List.cons_ne_nil _ _

/-- An operand that does not count as NULL has a number at least. -/
theorem numbersOfValue_ne_nil {op : String} {v : Value} {ns : List Number}
    (hv : v.isNull = false) (h : numbersOfValue op v = .ok ns) : ns ≠ [] := by
  cases v with
  | null => cases h
  | record => cases h
  | single s => exact numbersOfScalars_ne_nil (List.cons_ne_nil _ _) h
  | multiple c | ordered c =>
    refine numbersOfScalars_ne_nil ?_ h
    simpa [Value.isNull, Container.isEmpty] using hv

/-- The numbers of operands none of which counts as NULL are numbers at least of the first one. -/
theorem numbersOf_ne_nil {op : String} {vs : List Value} {ns : List Number}
    (h : numbersOf op vs = .ok (some ns)) : ns ≠ [] := by
  rw [numbersOf] at h
  split at h
  · cases h
  · rename_i hnull
    cases vs with
    | nil => simp at hnull
    | cons v rest =>
      simp only [List.any_cons, Bool.or_eq_true, not_or, Bool.not_eq_true] at hnull
      obtain ⟨ns', h, hns⟩ := map_eq_ok_iff.1 h
      cases hns
      obtain ⟨head, hhead, h⟩ := bind_eq_ok_iff.1 h
      obtain ⟨more, -, h⟩ := bind_eq_ok_iff.1 h
      cases h
      exact List.append_ne_nil_of_left_ne_nil (numbersOfValue_ne_nil hnull.2.1 hhead) _

theorem endsIn_onAllNumbers! {op : String} {f : List Number → Option Value}
    {g : List Number → Value} (hf : ∀ ns, ns ≠ [] → f ns = some (g ns)) (vs : List Value) :
    EndsIn (onAllNumbers! op vs f) (onAllNumbers op vs g) := by
  refine endsIn_bind (endsIn_settled _) fun r hr => ?_
  cases r with
  | none => exact endsIn_pure _
  | some ns => exact endsIn_primitive (hf ns (numbersOf_ne_nil hr))

theorem endsIn_onAllIntegers! {op : String} {f : List Int64 → Option (Option Int64)}
    {g : List Int64 → Option Int64} (hf : ∀ is, f is = some (g is)) (vs : List Value) :
    EndsIn (onAllIntegers! op vs f) (onAllIntegers op vs g) := by
  refine endsIn_bind (endsIn_settled _) fun r _ => ?_
  cases r with
  | none => exact endsIn_pure _
  | some is => exact endsIn_primitive_bind (hf is) (endsIn_pure _)

theorem VariadicOp.endsIn_apply! (op : VariadicOp) (vs : List Value) :
    EndsIn (op.apply! vs) (op.apply vs) := by
  cases op with
  | max | min => exact endsIn_onAllNumbers! (fun ns h => extremeNumber!_eq_some _ h) vs
  | gcd => exact endsIn_onAllIntegers! gcd!_eq_some vs
  | lcm => exact endsIn_onAllIntegers! lcm!_eq_some vs
  | _ => exact endsIn_settled _

theorem endsIn_repeatValues! (op : String) (n : Int64) (vs : List Value) :
    EndsIn (repeatValues! op n vs) (repeatValues op n vs) := by
  rw [repeatValues!, repeatValues]
  split
  · exact endsIn_pure _
  · rename_i hnonneg
    refine endsIn_bind (endsIn_settled _) fun items _ => ?_
    cases items with
    | nil => exact endsIn_pure _
    | cons s rest =>
      dsimp only
      by_cases hzero : n.toInt = 0
      · rw [if_pos hzero, hzero]
        exact endsIn_pure _
      · obtain ⟨k, hk⟩ : ∃ k, n.toInt.toNat = k + 1 := ⟨n.toInt.toNat - 1, by omega⟩
        have hvalue : containerValue true (repeatList (s :: rest) (k + 1)) =
            (Container.ofList s.baseType (repeatList (s :: rest) (k + 1))).map .ordered := by
          show (Container.ofList s.baseType _ >>= fun c => pure (Value.ordered c)) = _
          cases Container.ofList s.baseType (repeatList (s :: rest) (k + 1)) <;> rfl
        rw [if_neg hzero, hk, List.isEmpty_cons, if_neg Bool.false_ne_true, hvalue]
        -- The result is a container as soon as the elements to be repeated are.
        split
        · refine endsIn_ofList! (fun x hx => ?_) Value.ordered
          exact of_decide_eq_true (List.all_eq_true.1 ‹_› x (mem_repeatList hx))
        · exact endsIn_settled _

theorem endsIn_functionValue! (op : String) (f : Function) {vs : List Value} (h : vs ≠ []) :
    EndsIn (functionValue! op f vs) (functionValue op f vs) := by
  rw [functionValue!, functionValue.eq_def]
  split
  · exact endsIn_pure _
  · cases vs with
    | nil => exact absurd rfl h
    | cons a rest =>
      refine endsIn_primitive_bind rfl ?_
      cases rest with
      | nil => exact endsIn_bind (endsIn_settled _) fun x _ => endsIn_pure _
      | cons b rest =>
        refine endsIn_bind (endsIn_settled _) fun x _ => ?_
        exact endsIn_bind (endsIn_settled _) fun y _ => endsIn_pure _

/-! ## Mappings -/

namespace Mapping

/-- The total after some answers, for a rule that finds the place of an answer's entry. The flag of
an entry says whether it was used; its number is the one at its place. -/
def tally! (find : Scalar → Attempt (Option Nat)) (numbers : List Float) (defaultValue : Float)
    (used : List Bool) (total : Float) : List Scalar → Attempt Float
  | [] => pure total
  | s :: rest => do
    match ← find s with
    | none => tally! find numbers defaultValue used (total + defaultValue) rest
    | some i =>
      let seen ← primitive used[i]?
      if seen then tally! find numbers defaultValue used total rest
      else do
        let x ← primitive numbers[i]?
        tally! find numbers defaultValue (used.set i true) (total + x) rest

/-- The score of a value by its keys. -/
def apply! (m : Mapping) (identifier : String) (v : Value) : Attempt Float := do
  let ss ← settled (answers identifier v)
  let total ← tally! (fun s => pure (m.entries.findIdx? fun e => e.accepts s))
    (m.entries.map MapEntry.mappedValue) m.defaultValue (List.replicate m.entries.length false) 0.0
    ss
  pure (clamp m.lowerBound m.upperBound total)

/-- Flags say of each place of a list whether it is among some numbers. -/
def Flags (used : List Bool) (places : List Nat) (n : Nat) : Prop :=
  ∀ i < n, used[i]? = some (places.contains i)

theorem flags_replicate (n : Nat) : Flags (List.replicate n false) [] n := fun i h => by
  rw [List.getElem?_replicate, if_pos h]
  rfl

theorem Flags.set {used : List Bool} {places : List Nat} {n : Nat} (h : Flags used places n)
    (i : Nat) : Flags (used.set i true) (i :: places) n := by
  intro j hj
  rw [List.contains_cons]
  by_cases hji : j = i
  · have hlength : j < used.length := (List.getElem?_eq_some_iff.1 (h j hj)).1
    rw [hji, List.getElem?_set_self (hji ▸ hlength), beq_self_eq_true, Bool.true_or]
  · rw [List.getElem?_set_ne (Ne.symm hji), h j hj, beq_eq_false_iff_ne.2 hji, Bool.false_or]

/-- The loop asks for the flags and the numbers of entries only, and ends in the sum of the
addends. -/
theorem endsIn_tally! {find : Scalar → Attempt (Option Nat)}
    {find' : Scalar → Except Fault (Option (Nat × Float))} {numbers : List Float}
    (hfind : ∀ s, EndsIn (find s) ((find' s).map (Option.map Prod.fst)))
    (hnumber : ∀ s i x, find' s = .ok (some (i, x)) → numbers[i]? = some x) (defaultValue : Float)
    {used : List Bool} {places : List Nat} (hused : Flags used places numbers.length)
    (total : Float) (ss : List Scalar) :
    EndsIn (tally! find numbers defaultValue used total ss)
      ((addendsFrom find' defaultValue places ss).map (List.foldl (· + ·) total)) := by
  induction ss generalizing used places total with
  | nil => exact endsIn_pure _
  | cons s rest ih =>
    have hadd (x : Float) (r : Except Fault (List Float)) :
        (r >>= fun more => pure (x :: more)).map (List.foldl (· + ·) total) =
          r.map (List.foldl (· + ·) (total + x)) := by
      cases r <;> rfl
    have hs := hfind s
    rw [tally!, addendsFrom]
    cases hplace : find' s with
    | error e =>
      rw [hplace] at hs
      exact endsIn_bind_of_error _ hs
    | ok place =>
      rw [hplace] at hs
      cases place with
      | none =>
        refine endsIn_bind_of_ok hs ?_
        exact (hadd defaultValue _).symm ▸ ih hused (total + defaultValue)
      | some found =>
        obtain ⟨i, x⟩ := found
        have hx := hnumber s i x hplace
        have hi : i < numbers.length := (List.getElem?_eq_some_iff.1 hx).1
        refine endsIn_bind_of_ok hs (endsIn_primitive_bind (hused i hi) ?_)
        show EndsIn _ ((if places.contains i then addendsFrom find' defaultValue places rest
          else addendsFrom find' defaultValue (i :: places) rest >>= fun more =>
            pure (x :: more)).map (List.foldl (· + ·) total))
        split
        · exact ih hused total
        · refine endsIn_primitive_bind hx ?_
          exact (hadd x _).symm ▸ ih (hused.set i) (total + x)

theorem map_fst_placeFrom {α : Type} (p : α → Bool) (number : α → Float) (l : List α) :
    (placeFrom p number 0 l).map Prod.fst = l.findIdx? p := by
  rw [placeFrom, Option.map_map, List.findIdx?_eq_map_findFinIdx?_val]
  exact congrArg (Option.map · _) (funext fun k => Nat.zero_add k.val)

/-- The number of the first entry that passes a test is the one at its place. -/
theorem getElem?_of_placeFrom {α : Type} {p : α → Bool} {number : α → Float} {l : List α} {i : Nat}
    {x : Float} (h : placeFrom p number 0 l = some (i, x)) : (l.map number)[i]? = some x := by
  obtain ⟨k, -, hk⟩ := Option.map_eq_some_iff.1 h
  rw [Nat.zero_add, Prod.mk.injEq] at hk
  obtain ⟨rfl, rfl⟩ := hk
  rw [List.getElem?_map, List.getElem?_eq_getElem k.isLt]
  rfl

/-- What a loop over the answers adds up to is held between the bounds. -/
theorem endsIn_score {m : Attempt Float} {r : Except Fault (List Float)}
    (h : EndsIn m (r.map (List.foldl (· + ·) 0.0))) (lower upper : Option Float) :
    EndsIn (do let total ← m; pure (clamp lower upper total)) (r.map (score lower upper)) := by
  cases r with
  | error e => exact endsIn_bind_of_error _ h
  | ok addends => exact endsIn_bind_of_ok h (endsIn_pure _)

theorem endsIn_apply! (m : Mapping) (identifier : String) (v : Value) :
    EndsIn (m.apply! identifier v) (m.apply identifier v) := by
  refine endsIn_bind (endsIn_settled _) fun ss _ => ?_
  refine endsIn_score (endsIn_tally! (fun s => ?_) (fun s i x h => ?_) _ ?_ 0.0 ss) _ _
  · rw [findEntry_eq, Except.map, map_fst_placeFrom]
    exact endsIn_pure _
  · rw [findEntry_eq] at h
    exact getElem?_of_placeFrom (Except.ok.inj h)
  · rw [List.length_map]
    exact flags_replicate _

end Mapping

namespace AreaMapping

/-- The place of the first area that holds a point, with places counted from `i` on. -/
def findArea! (x y : Float) (i : Nat) : List AreaMapEntry → Attempt (Option Nat)
  | [] => pure none
  | e :: rest => do
    match ← primitive (e.shape.contains! e.coords x y) with
    | .error m => throw (.invalidAttribute "areaMapping" m.message)
    | .ok true => pure (some i)
    | .ok false => findArea! x y (i + 1) rest

/-- The place of an answer's entry. -/
def findEntry! (m : AreaMapping) (identifier : String) (s : Scalar) : Attempt (Option Nat) :=
  match s with
  | .point x y => findArea! (toFloat x) (toFloat y) 0 m.entries
  | s =>
    throw (.baseTypeMismatch ("area mapping of '" ++ identifier ++ "'") "point" s.baseType.name)

/-- The score of a value by its areas. -/
def apply! (m : AreaMapping) (identifier : String) (v : Value) : Attempt Float := do
  let ss ← settled (Mapping.answers identifier v)
  let total ← Mapping.tally! (m.findEntry! identifier) (m.entries.map AreaMapEntry.mappedValue)
    m.defaultValue (List.replicate m.entries.length false) 0.0 ss
  pure (Mapping.clamp m.lowerBound m.upperBound total)

theorem endsIn_findArea! (x y : Float) (i : Nat) (l : List AreaMapEntry) :
    EndsIn (findArea! x y i l) ((findArea x y i l).map (Option.map Prod.fst)) := by
  induction l generalizing i with
  | nil => exact endsIn_pure _
  | cons e rest ih =>
    rw [findArea!, findArea]
    refine endsIn_primitive_bind (e.shape.contains!_eq_some e.coords x y) ?_
    cases e.shape.contains e.coords x y with
    | error m => exact endsIn_throw _
    | ok inside =>
      cases inside with
      | false => exact ih (i + 1)
      | true => exact endsIn_pure _

/-- The number of the first area that holds a point is the one at its place. -/
theorem exists_of_findArea {x y z : Float} {i j : Nat} {l : List AreaMapEntry}
    (h : findArea x y i l = .ok (some (j, z))) :
    ∃ k, j = i + k ∧ (l.map AreaMapEntry.mappedValue)[k]? = some z := by
  induction l generalizing i with
  | nil => cases h
  | cons e rest ih =>
    rw [findArea] at h
    split at h
    · cases h
    · cases h
      exact ⟨0, rfl, rfl⟩
    · obtain ⟨k, rfl, hk⟩ := ih h
      exact ⟨k + 1, by omega, hk⟩

theorem endsIn_apply! (m : AreaMapping) (identifier : String) (v : Value) :
    EndsIn (m.apply! identifier v) (m.apply identifier v) := by
  refine endsIn_bind (endsIn_settled _) fun ss _ => ?_
  refine Mapping.endsIn_score
    (Mapping.endsIn_tally! (fun s => ?_) (fun s i x h => ?_) _ ?_ 0.0 ss) _ _
  · cases s with
    | point x y => exact endsIn_findArea! _ _ 0 m.entries
    | _ => exact endsIn_throw _
  · cases s with
    | point x y =>
      obtain ⟨k, rfl, hk⟩ := exists_of_findArea h
      rwa [Nat.zero_add]
    | _ => cases h
  · rw [List.length_map]
    exact Mapping.flags_replicate _

end AreaMapping

/-- The score of a response variable by its mapping. -/
def mappedValue! (store : Store) (id : String) : Attempt Value := do
  let r ← settled (store.response id)
  match r.mapping with
  | none => throw (.missingMapping id "mapping")
  | some m =>
    let x ← m.apply! id r.value
    pure (.ofFloat x)

/-- The score of a response variable by its area mapping. -/
def mappedPoint! (store : Store) (id : String) : Attempt Value := do
  let r ← settled (store.response id)
  match r.areaMapping with
  | none => throw (.missingMapping id "area mapping")
  | some m =>
    let x ← m.apply! id r.value
    pure (.ofFloat x)

theorem endsIn_mappedValue! (store : Store) (id : String) :
    EndsIn (mappedValue! store id) (mappedValue store id) := by
  refine endsIn_bind (endsIn_settled _) fun r _ => ?_
  cases r.mapping with
  | none => exact endsIn_throw _
  | some m => exact endsIn_map _ (m.endsIn_apply! id r.value)

theorem endsIn_mappedPoint! (store : Store) (id : String) :
    EndsIn (mappedPoint! store id) (mappedPoint store id) := by
  refine endsIn_bind (endsIn_settled _) fun r _ => ?_
  cases r.areaMapping with
  | none => exact endsIn_throw _
  | some m => exact endsIn_map _ (m.endsIn_apply! id r.value)

/-! ## Queries to a test -/

namespace TestSession

/-- Scalars as the elements of a multiset, integers among floats as floats. -/
def multisetOf! (values : List Scalar) : Attempt Value :=
  if values.isEmpty then pure .null
  else if values.any (fun v => v.baseType = .float) &&
      values.all (fun v => v.toFloat?.isSome) then do
    let c ← primitive (Container.ofList! .float (values.map widenScalar))
    pure (.multiple c)
  else do
    let s ← primitive (first! values)
    settled ((Container.ofList s.baseType values).map .multiple)

/-- The weighted normal bounds of an outcome variable over the items that a filter passes. -/
def bounds! (s : TestSession) (f : ItemFilter) (id : String) (b : Bound)
    (weight : Option String) : Attempt Value :=
  let declared := (s.select f).mapM fun i =>
    (declaredBound? b id i).map fun x => Scalar.float (x * i.weightOf weight)
  match declared with
  | none | some [] => pure .null
  | some values => do
    let c ← primitive (Container.ofList! .float values)
    pure (.multiple c)

theorem endsIn_multisetOf! (values : List Scalar) :
    EndsIn (multisetOf! values) (multisetOf values) := by
  cases values with
  | nil => exact endsIn_pure _
  | cons s rest =>
    rw [multisetOf!, multisetOf, List.isEmpty_cons, if_neg Bool.false_ne_true]
    split
    · refine endsIn_ofList! (fun x hx => ?_) Value.multiple
      obtain ⟨y, -, rfl⟩ := List.mem_map.1 hx
      rfl
    · exact endsIn_primitive_bind rfl (endsIn_settled _)

theorem endsIn_bounds! (s : TestSession) (f : ItemFilter) (id : String) (b : Bound)
    (weight : Option String) :
    EndsIn (s.bounds! f id b weight) (s.bounds f id b weight) := by
  rw [bounds!, bounds]
  cases hvalues : (s.select f).mapM fun i =>
      (declaredBound? b id i).map fun x => Scalar.float (x * i.weightOf weight) with
  | none => exact endsIn_pure _
  | some values =>
    cases values with
    | nil => exact endsIn_pure _
    | cons v rest =>
      refine endsIn_ofList! (fun x hx => ?_) Value.multiple
      rw [(mapM_eq_some_iff.1 hvalues).2] at hx
      obtain ⟨i, -, hi⟩ := List.mem_filterMap.1 hx
      obtain ⟨y, -, rfl⟩ := Option.map_eq_some_iff.1 hi
      rfl

end TestSession

/-- The answer of a session to a query about the items that a filter passes. -/
def SessionQuery.answer! (q : SessionQuery) (s : TestSession) (f : ItemFilter) : Attempt Value :=
  match q with
  | .values id t weight =>
    TestSession.multisetOf! ((s.select f).filterMap (TestSession.collected? id t weight))
  | .bounds b id weight => s.bounds! f id b weight
  | q => settled (q.answer s f)

theorem SessionQuery.endsIn_answer! (q : SessionQuery) (s : TestSession) (f : ItemFilter) :
    EndsIn (q.answer! s f) (q.answer s f) := by
  cases q with
  | values id t weight => exact TestSession.endsIn_multisetOf! _
  | bounds b id weight => exact s.endsIn_bounds! f id b weight
  | count c => exact endsIn_settled _

/-! ## Fitting a value to a signature -/

/-- A container for a base type, when its own fits. -/
def Container.conform! (c : Container) (t : BaseType) : Attempt (Option Container) :=
  if c.baseType = .integer ∧ t = .float then do
    let w ← primitive c.widen!
    pure (some w)
  else if c.baseType = t then pure (some c)
  else pure none

/-- The value for a base type, when its own fits. -/
def Value.conform! (v : Value) (t : BaseType) : Attempt (Option Value) :=
  match v with
  | .multiple c => do
    let r ← c.conform! t
    pure (r.map .multiple)
  | .ordered c => do
    let r ← c.conform! t
    pure (r.map .ordered)
  | v => pure (v.conform? t)

/-- The value that a variable of a signature takes for a value given to it. -/
def conform! (identifier : String) (v : Value) (signature : Signature) : Attempt Value :=
  let context := "variable '" ++ identifier ++ "'"
  if v.cardinality? = none then pure v
  else if v.cardinality? ≠ some signature.cardinality then
    throw (.cardinalityMismatch context signature.cardinality.name v.describe)
  else
    match signature.baseType with
    | none => pure v
    | some t => do
      match ← v.conform! t with
      | some w => pure w
      | none => throw (.baseTypeMismatch context t.name v.describe)

theorem Container.endsIn_conform! (c : Container) (t : BaseType) :
    EndsIn (c.conform! t) (.ok (c.conform? t)) := by
  rw [conform!, conform?]
  split
  · exact endsIn_primitive_bind c.widen!_eq_some (endsIn_pure _)
  · split <;> exact endsIn_pure _

theorem Value.endsIn_conform! (v : Value) (t : BaseType) :
    EndsIn (v.conform! t) (.ok (v.conform? t)) := by
  cases v with
  | multiple c | ordered c =>
    exact endsIn_bind_of_ok (c.endsIn_conform! t) (endsIn_pure _)
  | _ => exact endsIn_pure _

theorem endsIn_conform! (identifier : String) (v : Value) (signature : Signature) :
    EndsIn (conform! identifier v signature) (conform identifier v signature) := by
  rw [conform!, conform]
  split
  · exact endsIn_pure _
  · split
    · exact endsIn_throw _
    · cases signature.baseType with
      | none => exact endsIn_pure _
      | some t =>
        refine endsIn_bind_of_ok (v.endsIn_conform! t) ?_
        dsimp only
        cases v.conform? t with
        | none => exact endsIn_throw _
        | some w => exact endsIn_pure _

end Assessment
