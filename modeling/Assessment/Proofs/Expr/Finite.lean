import Assessment.Proofs.Expr.Construction
import Assessment.Proofs.Session.Finite

/-!
# Finite expressions have finite values

Every operator makes its floats by `Value.ofFloat` or takes them from its operands, and custom
operators are taken to do the same. What is left are the variables and the test session: a value of
a finite store is finite, and an answer of a finite session is unless the session overflows.

There is one lemma for each family of arms of `eval_expr`, by the way in which the operands are
taken. The floats of a result are the doubles that statistics, functions and arithmetic compute,
which `Value::float` checks, and those that stood in the operands. The test-level arms build their
floats without that check; `TestSession.Overflows` is about them.

* `UnaryOp.finite_apply`, `BinaryOp.finite_apply`, `VariadicOp.finite_apply`: what operators give.
* `Expr.finite_eval`: what expressions give.
-/

namespace Assessment

open Numeric Value

variable {v a b : Value} {vs : List Value}

/-! ## Operators on one operand -/

theorem finite_unlessNull {f : Unit → Except Fault Value} (h : Ensures Value.Finite (f ())) :
    Ensures Value.Finite (unlessNull v f) := by
  unfold unlessNull
  split
  · exact .ok finite_null
  · exact h

theorem finite_elementAt {items : List Scalar} (h : ∀ s ∈ items, s.Finite) (n : Int64) :
    (ofScalar? (elementAt items n)).Finite := by
  refine finite_ofScalar? fun s hs => h s ?_
  unfold elementAt at hs
  split_ifs at hs
  exact List.mem_of_getElem? hs

theorem finite_countElements (op : String) (v : Value) :
    Ensures Value.Finite (countElements op v) := by
  unfold countElements
  split
  · exact .ok (finite_ofInt64 _)
  · exact .ok (finite_ofInt64 _)
  · exact .ok (finite_ofInt64 _)
  · exact .error _

theorem finite_indexOf (hv : v.Finite) (op : String) (n : Int64) :
    Ensures Value.Finite (indexOf op n v) := by
  cases v with
  | ordered c => exact .ok (finite_elementAt hv n)
  | _ => exact .error _

theorem finite_fieldOf (hv : v.Finite) (op name : String) :
    Ensures Value.Finite (fieldOf op name v) := by
  cases v with
  | null => exact .ok finite_null
  | record fields => exact .ok (finite_ofScalar? fun s hs => hv.of_get? hs)
  | _ => exact .error _

theorem finite_matchPattern (patterns : Pattern.Engine) (op pattern : String) (v : Value) :
    Ensures Value.Finite (matchPattern patterns op pattern v) := by
  refine .bind_right fun text => ?_
  split
  · exact .ok (finite_ofBool _)
  · exact .error _

theorem finite_toIntegerBy (op : String) (rule : Float → Option Int64) (v : Value) :
    Ensures Value.Finite (toIntegerBy op rule v) := by
  refine .bind_right fun x => ?_
  cases x with
  | integer n => exact .ok (finite_ofInt64 n)
  | float x => exact .ok (finite_ofInt64? _)

/-- **An operator on one operand** gives a finite value for one. -/
theorem UnaryOp.finite_apply (op : UnaryOp) (patterns : Pattern.Engine) (store : Store)
    (hv : v.Finite) : Ensures Value.Finite (op.apply patterns store v) := by
  unfold UnaryOp.apply
  cases op with
  | containerSize => exact finite_countElements _ v
  | isNull => exact .ok (finite_ofBool _)
  | index n =>
    refine .bind_right fun n => ?_
    cases n with
    | none => exact .ok finite_null
    | some n => exact finite_unlessNull (finite_indexOf hv _ n)
  | fieldValue name => exact finite_fieldOf hv _ name
  | not => exact finite_unlessNull (.bind_right fun _ => .ok (finite_ofBool _))
  | patternMatch pattern =>
    refine .bind_right fun pattern => ?_
    cases pattern with
    | none => exact .ok finite_null
    | some pattern => exact finite_unlessNull (finite_matchPattern patterns _ pattern v)
  | inside shape coords =>
    refine finite_unlessNull (.bind_right fun points => ?_)
    exact .bind_right fun _ => .ok (finite_ofBool _)
  | truncate => exact finite_unlessNull (finite_toIntegerBy _ _ v)
  | round => exact finite_unlessNull (finite_toIntegerBy _ _ v)
  | roundTo mode figures =>
    refine .bind_right fun figures => ?_
    cases figures with
    | none => exact .ok finite_null
    | some figures =>
      refine finite_unlessNull (.bind_right fun x => .bind_right fun _ => ?_)
      exact .bind_right fun r => .ok (finite_ofFloat? r)
  | integerToFloat => exact finite_unlessNull (.bind_right fun _ => .ok (finite_ofFloat _))
  | statistic s =>
    refine finite_unlessNull (.bind_right fun c => ?_)
    exact .bind_right fun _ => .ok (finite_ofFloat? _)

/-! ## Operators on two operands -/

theorem finite_unlessEitherNull {f : Unit → Except Fault Value} (h : Ensures Value.Finite (f ())) :
    Ensures Value.Finite (unlessEitherNull a b f) := by
  unfold unlessEitherNull
  split
  · exact .ok finite_null
  · exact h

theorem items_containerOf {op : String} (hv : v.Finite) :
    Ensures (fun c : Container => ∀ s ∈ c.items, s.Finite) (containerOf op v) := by
  cases v with
  | multiple c | ordered c => exact .ok hv
  | _ => exact .error _

/-- What is left of a container without an element is finite. -/
theorem finite_rebuild {c : Container} (hc : ∀ s ∈ c.items, s.Finite) (container : Value)
    (s : Scalar) : (rebuild container (c.erase s)).Finite := by
  have herase : ∀ x ∈ (c.erase s).items, x.Finite := by
    intro x hx
    unfold Container.erase at hx
    split at hx
    · exact hc x hx
    · rename_i h
      exact hc x (Container.mem_of_removeSame? h hx)
  cases container <;> exact herase

theorem finite_elementAndContainer {op : String} (hb : b.Finite) :
    Ensures (fun p : Scalar × Container => ∀ s ∈ p.2.items, s.Finite)
      (elementAndContainer op a b) := by
  refine .bind_right fun s => .bind (items_containerOf hb) fun c hc => ?_
  exact .bind_right fun _ => .ok hc

theorem finite_containsAll (op : String) (a b : Value) :
    Ensures Value.Finite (containsAll op a b) := by
  refine .bind_right fun _ => ?_
  split
  · exact .ok (finite_ofBool _)
  · exact .ok (finite_ofBool _)
  · exact .error _

theorem finite_matchValues (op : String) (a b : Value) :
    Ensures Value.Finite (matchValues op a b) := by
  unfold matchValues
  split
  · exact .error _
  · exact .bind_right fun _ => .ok (finite_ofBool _)

theorem finite_equalAfterRounding (mode : RoundingMode) (figures : Int64) (x y : Number) :
    Ensures Value.Finite (equalAfterRounding mode figures x y) := by
  refine .bind_right fun x => .bind_right fun y => ?_
  split
  · exact .ok (finite_ofBool _)
  · exact .ok finite_null

theorem finite_subtractNumbers (x y : Number) : (subtractNumbers x y).Finite := by
  unfold subtractNumbers
  split
  · exact finite_ofInt64? _
  · exact finite_ofFloat _

theorem finite_divideNumbers (x y : Number) : (divideNumbers x y).Finite := by
  unfold divideNumbers
  split
  · exact finite_null
  · exact finite_ofFloat _

theorem finite_onNumbers {op : String} {f : Number → Number → Value} (hf : ∀ x y, (f x y).Finite) :
    Ensures Value.Finite (onNumbers op a b f) :=
  .bind_right fun x => .bind_right fun y => .ok (hf x y)

theorem finite_onIntegers {op : String} {f : Int64 → Int64 → Option Int64} :
    Ensures Value.Finite (onIntegers op a b f) :=
  .bind_right fun _ => .bind_right fun _ => .ok (finite_ofInt64? _)

theorem finite_onDurations {op : String} {f : Float → Float → Bool} :
    Ensures Value.Finite (onDurations op a b f) :=
  .bind_right fun _ => .bind_right fun _ => .ok (finite_ofBool _)

theorem finite_onTexts {op : String} {f : String → String → Bool} :
    Ensures Value.Finite (onTexts op a b f) :=
  .bind_right fun _ => .bind_right fun _ => .ok (finite_ofBool _)

/-- **An operator on two operands** gives a finite value for two. -/
theorem BinaryOp.finite_apply (op : BinaryOp) (store : Store) (hb : b.Finite) :
    Ensures Value.Finite (op.apply store a b) := by
  unfold BinaryOp.apply
  cases op with
  | member =>
    exact finite_unlessEitherNull (.bind_right fun _ => .ok (finite_ofBool _))
  | delete =>
    refine finite_unlessEitherNull (.bind (finite_elementAndContainer hb) fun p hp => ?_)
    exact .ok (finite_rebuild hp b p.1)
  | contains => exact finite_unlessEitherNull (finite_containsAll _ a b)
  | matching => exact finite_unlessEitherNull (finite_matchValues _ a b)
  | stringMatch _ _ | substring _ => exact finite_unlessEitherNull finite_onTexts
  | equal mode tolerance includeLower includeUpper =>
    refine finite_unlessEitherNull (.bind_right fun x => .bind_right fun y => ?_)
    refine .bind_right fun window => ?_
    cases window with
    | none => exact .ok finite_null
    | some window => exact .ok (finite_ofBool _)
  | equalRounded mode figures =>
    refine .bind_right fun figures => ?_
    cases figures with
    | none => exact .ok finite_null
    | some figures =>
      refine finite_unlessEitherNull (.bind_right fun x => .bind_right fun y => ?_)
      exact .bind_right fun _ => finite_equalAfterRounding mode figures x y
  | compare c =>
    refine finite_unlessEitherNull (finite_onNumbers fun x y => ?_)
    split
    · exact finite_ofBool _
    · exact finite_null
  | durationLT | durationGTE => exact finite_unlessEitherNull finite_onDurations
  | subtract => exact finite_unlessEitherNull (finite_onNumbers finite_subtractNumbers)
  | divide => exact finite_unlessEitherNull (finite_onNumbers finite_divideNumbers)
  | power => exact finite_unlessEitherNull (finite_onNumbers fun _ _ => finite_ofFloat _)
  | integerDivide | integerModulus => exact finite_unlessEitherNull finite_onIntegers

/-! ## Operators on a list of operands -/

theorem finite_elementsOf {op : String} {ordered : Bool} (hv : v.Finite) :
    Ensures (fun l : List Scalar => ∀ s ∈ l, s.Finite) (elementsOf op ordered v) := by
  unfold elementsOf
  dsimp only
  split
  · exact .ok (by simp)
  · split
    · exact .ok hv
    · split
      · exact .error _
      · exact .ok hv
    · split
      · exact .ok hv
      · exact .error _
    · exact .error _

theorem finite_flatten {op : String} {ordered : Bool} :
    ∀ {vs : List Value}, (∀ v ∈ vs, v.Finite) →
      Ensures (fun l : List Scalar => ∀ s ∈ l, s.Finite) (flatten op ordered vs)
  | [], _ => .ok (by simp)
  | v :: rest, h => by
    obtain ⟨hv, hrest⟩ := List.forall_mem_cons.1 h
    refine .bind (finite_elementsOf hv) fun items hitems => ?_
    refine .bind (finite_flatten hrest) fun more hmore => .ok fun s hs => ?_
    rcases List.mem_append.1 hs with hs | hs
    · exact hitems s hs
    · exact hmore s hs

theorem finite_containerValue {ordered : Bool} {items : List Scalar} (h : ∀ s ∈ items, s.Finite) :
    Ensures Value.Finite (containerValue ordered items) := by
  unfold containerValue
  split
  · exact .ok finite_null
  · refine .bind (Container.finite_ofList h _) fun c hc => .ok ?_
    cases ordered <;> exact hc

theorem finite_repeatValues {op : String} {n : Int64} (h : ∀ v ∈ vs, v.Finite) :
    Ensures Value.Finite (repeatValues op n vs) := by
  unfold repeatValues
  split
  · exact .ok finite_null
  · refine .bind (finite_flatten h) fun items hitems => ?_
    split
    · exact .ok finite_null
    · exact finite_containerValue fun s hs => hitems s (mem_repeatList hs)

theorem finite_sumNumbers (ns : List Number) : (sumNumbers ns).Finite := by
  unfold sumNumbers
  split
  · exact finite_ofInt64? _
  · exact finite_ofFloat _

theorem finite_multiplyNumbers (ns : List Number) : (multiplyNumbers ns).Finite := by
  unfold multiplyNumbers
  split
  · exact finite_ofInt64? _
  · exact finite_ofFloat _

theorem finite_extremeNumber (want : Ordering) (ns : List Number) :
    (extremeNumber want ns).Finite := by
  unfold extremeNumber
  split
  · exact finite_null
  · split
    · exact finite_ofInt64 _
    · exact finite_ofFloat _

theorem finite_onAllNumbers {op : String} {f : List Number → Value} (hf : ∀ ns, (f ns).Finite) :
    Ensures Value.Finite (onAllNumbers op vs f) := by
  refine .bind_right fun ns => ?_
  cases ns with
  | none => exact .ok finite_null
  | some ns => exact .ok (hf ns)

theorem finite_onAllIntegers {op : String} {f : List Int64 → Option Int64} :
    Ensures Value.Finite (onAllIntegers op vs f) := by
  refine .bind_right fun is => ?_
  cases is with
  | none => exact .ok finite_null
  | some is => exact .ok (finite_ofInt64? _)

/-- **An operator on a list of operands** gives a finite value for finite ones. -/
theorem VariadicOp.finite_apply (op : VariadicOp) (h : ∀ v ∈ vs, v.Finite) :
    Ensures Value.Finite (op.apply vs) := by
  cases op with
  | multiple | ordered => exact .bind (finite_flatten h) fun _ => finite_containerValue
  | sum => exact finite_onAllNumbers finite_sumNumbers
  | product => exact finite_onAllNumbers finite_multiplyNumbers
  | max | min => exact finite_onAllNumbers (finite_extremeNumber _)
  | gcd | lcm => exact finite_onAllIntegers

theorem finite_applyFunction (f : Function) (x : Number) (y : Float) :
    (applyFunction f x y).Finite := by
  unfold applyFunction
  split
  · exact finite_ofInt64? _
  · split
    · split
      · exact finite_ofInt64? _
      · exact finite_ofFloat _
    · exact finite_null

theorem finite_functionValue (op : String) (f : Function) (vs : List Value) :
    Ensures Value.Finite (functionValue op f vs) := by
  unfold functionValue
  split
  · exact .ok finite_null
  · split
    · exact .ok finite_null
    · exact .bind_right fun x => .ok (finite_applyFunction f x _)
    · exact .bind_right fun x => .bind_right fun y => .ok (finite_applyFunction f x _)

/-! ## What an evaluation stands on -/

variable {σ : Type} {env : Environment σ} {store : Store}

/-- Operators that give finite values for finite ones. -/
def Registry.Finite (r : Registry) : Prop :=
  ∀ e ∈ r.entries, ∀ vs : List Value, (∀ v ∈ vs, v.Finite) → Ensures Value.Finite (e.2 vs)

theorem Registry.mem_of_resolve? {r : Registry} {key : OperatorKey} {op : Operator}
    (h : r.resolve? key = some op) : ∃ e ∈ r.entries, e.2 = op := by
  have hfind : ∀ k op, r.find? k = some op → ∃ e ∈ r.entries, e.2 = op := by
    intro k op h
    obtain ⟨e, he, rfl⟩ := Option.map_eq_some_iff.1 h
    exact ⟨e, List.mem_of_find?_eq_some he, rfl⟩
  unfold resolve? at h
  split at h
  · rename_i hop
    cases h
    exact hfind _ _ hop
  · split_ifs at h
    exact hfind _ _ h

/-- The operators and the session, where there is one, are finite. Nothing is asked of the random
source: a float that it draws becomes a value only when it is finite. -/
structure Environment.Finite (env : Environment σ) : Prop where
  operators : env.operators.Finite
  session : ∀ s, env.session = some s → s.Finite

/-- There is a session, and it overflows. -/
def Environment.Overflows (env : Environment σ) : Prop :=
  ∃ s, env.session = some s ∧ s.Overflows

/-! ## Variables and queries -/

theorem splitAtPoint?_append {before : List Char} (after : List Char) (h : '.' ∉ before) :
    splitAtPoint? (before ++ '.' :: after) = some (before, after) := by
  induction before with
  | nil => rfl
  | cons c rest ih =>
    have hc : ¬ (c == '.') = true := fun hc => h (by simp [eq_of_beq hc])
    rw [List.cons_append, splitAtPoint?, if_neg hc, ih fun hmem => h (List.mem_cons_of_mem _ hmem)]
    rfl

theorem notMem_of_splitAtPoint? : ∀ {l before after : List Char},
    splitAtPoint? l = some (before, after) → '.' ∉ before
  | c :: rest, before, after, h => by
    rw [splitAtPoint?] at h
    split_ifs at h with hc
    · cases h
      simp
    · obtain ⟨⟨before', after'⟩, hrest, h⟩ := Option.map_eq_some_iff.1 h
      cases h
      intro hmem
      rcases List.mem_cons.1 hmem with rfl | hmem
      · exact hc rfl
      · exact notMem_of_splitAtPoint? hrest hmem

/-- A name with a point after an item's name means a variable of that item. -/
theorem dottedName?_append {item : String} (name : String) (h : '.' ∉ item.toList) :
    dottedName? (item ++ "." ++ name) = some (item, name) := by
  have hlist : (item ++ "." ++ name).toList = item.toList ++ '.' :: name.toList := by simp
  rw [dottedName?, hlist, splitAtPoint?_append _ h]
  simp

/-- The name of the item in a dotted name has no point in it. -/
theorem notMem_of_dottedName? {id item name : String} (h : dottedName? id = some (item, name)) :
    '.' ∉ item.toList := by
  obtain ⟨⟨before, after⟩, hsplit, h⟩ := Option.map_eq_some_iff.1 h
  cases h
  simpa using notMem_of_splitAtPoint? hsplit

theorem finite_variableValue (he : env.Finite) (ho : ¬ env.Overflows) (hs : store.Finite)
    (id : String) (w : Option String) :
    Ensures Value.Finite (variableValue env.session store id w) := by
  unfold variableValue
  split
  · exact hs.value id
  · split
    · rename_i item name s hname hsession
      refine .ok ((he.session s hsession).itemVariable ?_ (notMem_of_dottedName? hname) name w)
      exact fun hov => ho ⟨s, hsession, hov⟩
    · exact hs.value id

theorem finite_mappedValue (store : Store) (id : String) :
    Ensures Value.Finite (mappedValue store id) := by
  refine .bind_right fun r => ?_
  split
  · exact .error _
  · exact .map (P := fun _ => True) (fun _ _ => trivial) fun x _ => finite_ofFloat x

theorem finite_mappedPoint (store : Store) (id : String) :
    Ensures Value.Finite (mappedPoint store id) := by
  refine .bind_right fun r => ?_
  split
  · exact .error _
  · exact .map (P := fun _ => True) (fun _ _ => trivial) fun x _ => finite_ofFloat x

theorem Environment.ensures_requireSession (env : Environment σ) (op : String) :
    Ensures (fun s => env.session = some s) (env.requireSession op) := by
  intro s hr
  unfold requireSession at hr
  split at hr
  · rename_i hsome
    cases hr
    exact hsome
  · cases hr

theorem SessionQuery.finite_answer {s : TestSession} (h : s.Finite) (ho : ¬ s.Overflows)
    (q : SessionQuery) (f : ItemFilter) : Ensures Value.Finite (q.answer s f) := by
  cases q with
  | values id t w => exact h.values ho f id t w
  | bounds b id w => exact TestSession.Finite.bounds ho f id b w
  | count c => exact .ok (finite_ofInt64 _)

/-! ## Draws, counts and custom operators -/

theorem finite_drawFrom (env : Environment σ) : ∀ g, Eval.Ensures Value.Finite (drawFrom env g)
  | none => .pure finite_null
  | some _ => .bind_right fun _ => .pure (finite_ofInt64? _)

theorem finite_drawWithin (env : Environment σ) : ∀ r, Eval.Ensures Value.Finite (drawWithin env r)
  | none => .pure finite_null
  | some _ => .bind_right fun x => .pure (finite_ofFloat x)

theorem finite_drawElement (env : Environment σ) (hv : v.Finite) :
    Eval.Ensures Value.Finite (drawElement env v) := by
  unfold drawElement
  split
  · exact .pure finite_null
  · refine .bind (.ofExcept (items_containerOf hv)) fun c hc => ?_
    exact .bind_right fun _ => .pure (finite_elementAt hc _)

theorem finite_countBetween (min max : Int64) (trues nulls : Nat) :
    (countBetween min max trues nulls).Finite := by
  unfold countBetween
  dsimp only
  split
  · exact finite_ofBool _
  · split
    · exact finite_ofBool _
    · exact finite_null

theorem finite_applyCustom (he : env.Finite) (key : OperatorKey) (h : ∀ v ∈ vs, v.Finite) :
    Eval.Ensures Value.Finite (applyCustom env key vs) := by
  unfold applyCustom
  split
  · exact .bind_right fun _ => .pure finite_null
  · rename_i op hop
    obtain ⟨e, hmem, rfl⟩ := Registry.mem_of_resolve? hop
    split
    · rename_i v hv
      exact .pure (he.operators e hmem vs h v hv)
    · exact .bind_right fun _ => .pure finite_null

/-! ## Expressions -/

namespace Expr

mutual

/-- The floats and durations that an expression writes down are finite, in its literals and in its
lookup tables. -/
def Finite : Expr → Prop
  | .literal s => s.Finite
  | .lookup table source => table.Finite ∧ source.Finite
  | .random operand | .unary _ operand => operand.Finite
  | .binary _ left right => left.Finite ∧ right.Finite
  | .variadic _ operands | .repetition _ operands | .junction _ operands | .anyN _ _ operands
  | .function _ operands | .custom _ operands => FiniteAll operands
  | _ => True

/-- All expressions of a list are finite. -/
def FiniteAll : List Expr → Prop
  | [] => True
  | e :: rest => e.Finite ∧ FiniteAll rest

end

/-- A junction is true, false or NULL, whatever its operands are. -/
theorem finite_evalJunction (j : Junction) (sawNull : Bool) (l : List Expr) :
    Eval.Ensures Value.Finite (evalJunction env store j sawNull l) := by
  induction l generalizing sawNull with
  | nil =>
    rw [evalJunction]
    cases sawNull
    · exact .pure (finite_ofBool _)
    · exact .pure finite_null
  | cons e rest ih =>
    rw [evalJunction]
    refine .bind_right fun v => ?_
    split
    · exact ih true
    · refine .bind_right fun b => ?_
      split
      · exact .pure (finite_ofBool _)
      · exact ih sawNull

mutual

/-- **A finite expression has a finite value**, in a finite environment that does not overflow and
on a finite store. -/
theorem finite_eval (he : env.Finite) (ho : ¬ env.Overflows) (hs : store.Finite) :
    ∀ e : Expr, e.Finite → Eval.Ensures Value.Finite (e.eval env store)
  | .literal s, h => by
    rw [eval]
    rw [Expr.Finite] at h
    exact .pure (finite_single h)
  | .null, _ => by
    rw [eval]
    exact .pure finite_null
  | .constant c, _ => by
    rw [eval]
    exact .pure (finite_ofFloat _)
  | .variable id w, _ => by
    rw [eval]
    exact .ofExcept (finite_variableValue he ho hs id w)
  | .correct id, _ => by
    rw [eval]
    exact .ofExcept (hs.correct id)
  | .default id, _ => by
    rw [eval]
    exact .ofExcept (hs.default id)
  | .mapResponse id, _ => by
    rw [eval]
    exact .ofExcept (finite_mappedValue store id)
  | .mapResponsePoint id, _ => by
    rw [eval]
    exact .ofExcept (finite_mappedPoint store id)
  | .randomInteger min max step, _ => by
    rw [eval]
    exact .bind_right fun grid => finite_drawFrom env grid
  | .randomFloat min max, _ => by
    rw [eval]
    exact .bind_right fun range => finite_drawWithin env range
  | .lookup table source, h => by
    rw [eval]
    rw [Expr.Finite] at h
    exact .bind_right fun v => .ofExcept (h.1.resolve v)
  | .session query filter, _ => by
    rw [eval]
    refine .bind (.ofExcept (env.ensures_requireSession query.name)) fun s hs => .ofExcept ?_
    exact query.finite_answer (he.session s hs) (fun hov => ho ⟨s, hs, hov⟩) filter
  | .random operand, h => by
    rw [eval]
    rw [Expr.Finite] at h
    exact .bind (finite_eval he ho hs operand h) fun _ hv => finite_drawElement env hv
  | .unary op operand, h => by
    rw [eval]
    rw [Expr.Finite] at h
    exact .bind (finite_eval he ho hs operand h) fun _ hv => .ofExcept (op.finite_apply _ store hv)
  | .binary op left right, h => by
    rw [eval]
    rw [Expr.Finite] at h
    refine .bind_right fun _ => .bind (finite_eval he ho hs right h.2) fun _ hb => ?_
    exact .ofExcept (op.finite_apply store hb)
  | .variadic op operands, h => by
    rw [eval]
    rw [Expr.Finite] at h
    exact .bind (finite_evalAll he ho hs operands h) fun _ hvs => .ofExcept (op.finite_apply hvs)
  | .repetition count operands, h => by
    rw [eval]
    rw [Expr.Finite] at h
    refine .bind_right fun n => ?_
    cases n with
    | none => exact .pure finite_null
    | some n =>
      refine .bind (finite_evalAll he ho hs operands h) fun _ hvs => ?_
      exact .ofExcept (finite_repeatValues hvs)
  | .junction j operands, _ => by
    rw [eval]
    exact finite_evalJunction j false operands
  | .anyN min max operands, _ => by
    rw [eval]
    refine .bind_right fun bounds => ?_
    cases bounds with
    | none => exact .pure finite_null
    | some bounds => exact .bind_right fun _ => .pure (finite_countBetween _ _ _ _)
  | .function f operands, _ => by
    rw [eval]
    exact .bind_right fun _ => .bind_right fun vs => .ofExcept (finite_functionValue _ f vs)
  | .custom key operands, h => by
    rw [eval]
    rw [Expr.Finite] at h
    exact .bind (finite_evalAll he ho hs operands h) fun _ hvs => finite_applyCustom he key hvs

theorem finite_evalAll (he : env.Finite) (ho : ¬ env.Overflows) (hs : store.Finite) :
    ∀ l : List Expr, FiniteAll l →
      Eval.Ensures (fun vs => ∀ v ∈ vs, v.Finite) (evalAll env store l)
  | [], _ => by
    rw [evalAll]
    exact .pure (by simp)
  | e :: rest, h => by
    rw [evalAll]
    rw [FiniteAll] at h
    refine .bind (finite_eval he ho hs e h.1) fun v hv => ?_
    refine .bind (finite_evalAll he ho hs rest h.2) fun vs hvs => .pure ?_
    exact List.forall_mem_cons.2 ⟨hv, hvs⟩

end

end Expr

end Assessment
