import Assessment.Proofs.Expr.Computation

/-!
# Operands that count as NULL

Most operators give NULL as soon as an operand counts as NULL, whatever the kinds of the others: the
operands are looked at for that before their cardinalities and base types are. The field of a record
is the exception. It is asked for only of NULL and of records, so an empty text or an empty
container is refused as no record.

The operators are those of `eval_expr` that ask `null_if_any` or `is_null` first: the rule of
section B.4.1 of the specification, by which NULL is found before any question of type. isNull,
containerSize, the logical operators and the operators that build containers have rules of their own
and are not among them. For fieldValue the code asks for `Value::Null` itself.

* `Expr.eval_eq_null_iff`: with an operand that counts as NULL these operators give NULL exactly
  where the field of something that is no record is not asked for.
* `fieldValue_of_empty_text`: the refusal of an empty text.
-/

namespace Assessment

variable {σ : Type} {patterns : Pattern.Engine} {store : Store} {v a b : Value}
  {vs : List Value}

/-! ## The operators -/

/-- Whether an operator gives NULL for an operand that counts as NULL. -/
def UnaryOp.propagatesNull : UnaryOp → Bool
  | .containerSize | .isNull => false
  | _ => true

/-- Whether an operator gives NULL when one of its operands counts as NULL. -/
def VariadicOp.propagatesNull : VariadicOp → Bool
  | .multiple | .ordered => false
  | _ => true

/-- Whether an operator takes a value that counts as NULL for one of the wrong cardinality. -/
def UnaryOp.refusesNull : UnaryOp → Value → Bool
  | .fieldValue _, .single _ | .fieldValue _, .multiple _ | .fieldValue _, .ordered _ => true
  | _, _ => false

/-- The attributes that an operator resolves before it looks at its operand have no fault. -/
def UnaryOp.AttributesResolve (op : UnaryOp) (store : Store) : Prop :=
  match op with
  | .index n | .roundTo _ n => ∃ r, n.resolve op.name store = .ok r
  | .patternMatch pattern => ∃ r, resolvePattern store pattern = .ok r
  | _ => True

/-- The attributes that an operator resolves before it looks at its operands have no fault. -/
def BinaryOp.AttributesResolve (op : BinaryOp) (store : Store) : Prop :=
  match op with
  | .equalRounded _ figures => ∃ r, figures.resolve op.name store = .ok r
  | _ => True

/-! ## What the operators give -/

theorem unlessNull_of_isNull {f : Unit → Except Fault Value} (h : v.isNull) :
    unlessNull v f = .ok .null := by
  rw [unlessNull, if_pos h]

theorem unlessEitherNull_of_isNull {f : Unit → Except Fault Value} (h : a.isNull ∨ b.isNull) :
    unlessEitherNull a b f = .ok .null := by
  rw [unlessEitherNull, if_pos (by simpa using h)]

/-- An attribute without a fault leaves NULL to what follows, and gives it on its own otherwise. -/
theorem bind_attribute_eq_null {α : Type} {r : Except Fault (Option α)}
    {k : Option α → Except Fault Value} (hr : ∃ x, r = .ok x) (hnone : k none = .ok .null)
    (hsome : ∀ x, k (some x) = .ok .null) : (r >>= k) = .ok .null := by
  obtain ⟨x, rfl⟩ := hr
  cases x with
  | none => exact hnone
  | some x => exact hsome x

/-- The field of what counts as NULL is NULL where it is not refused: a record that counts as NULL
has no field. -/
theorem fieldOf_eq_null_iff {op name : String} (h : v.isNull) :
    fieldOf op name v = .ok .null ↔ (UnaryOp.fieldValue name).refusesNull v = false := by
  cases v with
  | null => simp [fieldOf, UnaryOp.refusesNull]
  | single s => simp [fieldOf, UnaryOp.refusesNull]
  | multiple c => simp [fieldOf, UnaryOp.refusesNull]
  | ordered c => simp [fieldOf, UnaryOp.refusesNull]
  | record fields =>
    have hfield : fields.get? name = none := by
      rw [Table.get?, List.isEmpty_iff.1 h, Table.find?]
    simp [fieldOf, UnaryOp.refusesNull, hfield, Value.ofScalar?]

theorem UnaryOp.apply_eq_null_iff {op : UnaryOp} (hop : op.propagatesNull)
    (ha : op.AttributesResolve store) (h : v.isNull) :
    op.apply patterns store v = .ok .null ↔ op.refusesNull v = false := by
  cases op with
  | containerSize | isNull => cases hop
  | fieldValue name => exact fieldOf_eq_null_iff h
  | index n =>
    refine iff_of_true ?_ rfl
    exact bind_attribute_eq_null ha rfl fun _ => unlessNull_of_isNull h
  | patternMatch pattern =>
    refine iff_of_true ?_ rfl
    exact bind_attribute_eq_null ha rfl fun _ => unlessNull_of_isNull h
  | roundTo mode figures =>
    refine iff_of_true ?_ rfl
    exact bind_attribute_eq_null ha rfl fun _ => unlessNull_of_isNull h
  | not | inside _ _ | truncate | round | integerToFloat | statistic _ =>
    simp only [apply, unlessNull_of_isNull h, refusesNull]

theorem BinaryOp.apply_eq_null {op : BinaryOp} (ha : op.AttributesResolve store)
    (h : a.isNull ∨ b.isNull) : op.apply store a b = .ok .null := by
  cases op with
  | equalRounded mode figures =>
    exact bind_attribute_eq_null ha rfl fun _ => unlessEitherNull_of_isNull h
  | _ => simp only [apply, unlessEitherNull_of_isNull h]

theorem VariadicOp.apply_eq_null {op : VariadicOp} (hop : op.propagatesNull)
    (h : ∃ v ∈ vs, v.isNull) : op.apply vs = .ok .null := by
  have hany : (vs.isEmpty || vs.any Value.isNull) = true := by simpa using .inr h
  have hnumbers (name : String) : numbersOf name vs = .ok none := if_pos hany
  have hintegers (name : String) : integersOf name vs = .ok none := if_pos hany
  cases op with
  | multiple | ordered => cases hop
  | sum | product | max | min =>
    rw [apply, onAllNumbers, hnumbers]
    rfl
  | gcd | lcm =>
    rw [apply, onAllIntegers, hintegers]
    rfl

theorem functionValue_eq_null {op : String} {f : Numeric.Function} (h : ∃ v ∈ vs, v.isNull) :
    functionValue op f vs = .ok .null := by
  unfold functionValue
  rw [if_pos (by simpa using h)]

theorem drawElement_of_isNull (env : Environment σ) (h : v.isNull) :
    drawElement env v = pure .null := by
  rw [drawElement, if_pos h]

/-! ## The expressions -/

namespace Expr

/-- The operands of an expression. -/
def operands : Expr → List Expr
  | .lookup _ e | .random e | .unary _ e => [e]
  | .binary _ a b => [a, b]
  | .variadic _ es | .repetition _ es | .junction _ es | .anyN _ _ es | .function _ es
  | .custom _ es => es
  | _ => []

/-- Whether an expression is NULL when one of its operands counts as NULL, the number of operands
being right. -/
def propagatesNull : Expr → Bool
  | .random _ | .binary _ _ _ => true
  | .unary op _ => op.propagatesNull
  | .variadic op _ => op.propagatesNull
  | .function f es => es.length == f.arity
  | _ => false

/-- Whether an expression refuses one of the values of its operands although it counts as NULL. -/
def refusesNull : Expr → List Value → Bool
  | .unary op _, vs => vs.any op.refusesNull
  | _, _ => false

/-- The attributes that an expression resolves before it looks at its operands have no fault. -/
def AttributesResolve (e : Expr) (store : Store) : Prop :=
  match e with
  | .unary op _ => op.AttributesResolve store
  | .binary op _ _ => op.AttributesResolve store
  | _ => True

open Eval

/-- **NULL before kinds.** When the operands have values of which one counts as NULL, and the
attributes resolve, the value is NULL and nothing more is drawn or recorded: except where the field
of a value that counts as NULL and is no record is asked for. -/
theorem eval_eq_null_iff {env : Environment σ} {e : Expr} {t u : Trail σ}
    (he : e.propagatesNull) (ha : e.AttributesResolve store)
    (hvs : (evalAll env store e.operands).runOn t = (.ok vs, u)) (hnull : ∃ v ∈ vs, v.isNull) :
    (e.eval env store).runOn t = (.ok .null, u) ↔ e.refusesNull vs = false := by
  cases e with
  | random operand =>
    obtain ⟨v, hv, rfl⟩ := runOn_evalAll_singleton_iff.1 hvs
    rw [eval, runOn_bind_of_ok hv, drawElement_of_isNull env (by simpa using hnull)]
    exact iff_of_true rfl rfl
  | unary op operand =>
    obtain ⟨v, hv, rfl⟩ := runOn_evalAll_singleton_iff.1 hvs
    rw [eval, runOn_bind_of_ok hv, runOn_ofExcept, Prod.mk.injEq, and_iff_left rfl,
      UnaryOp.apply_eq_null_iff he ha (by simpa using hnull)]
    simp [refusesNull]
  | binary op left right =>
    obtain ⟨a, w, b, hl, hr, rfl⟩ := runOn_evalAll_pair_iff.1 hvs
    rw [eval, runOn_bind_of_ok hl, runOn_bind_of_ok hr, runOn_ofExcept,
      BinaryOp.apply_eq_null ha (by simpa using hnull)]
    exact iff_of_true rfl rfl
  | variadic op operands =>
    replace hvs : (evalAll env store operands).runOn t = (.ok vs, u) := hvs
    rw [eval, runOn_bind_of_ok hvs, runOn_ofExcept, VariadicOp.apply_eq_null he hnull]
    exact iff_of_true rfl rfl
  | function f operands =>
    replace hvs : (evalAll env store operands).runOn t = (.ok vs, u) := hvs
    have harity : checkArity "mathOperator" f operands.length = .ok () :=
      if_pos (by simpa [propagatesNull] using he)
    rw [eval, runOn_bind_of_ok (by rw [runOn_ofExcept, harity]), runOn_bind_of_ok hvs,
      runOn_ofExcept, functionValue_eq_null hnull]
    exact iff_of_true rfl rfl
  | _ => cases he

end Expr

/-- A quotient of NULL and an identifier, which is no number, is NULL. -/
theorem quotient_of_null_and_identifier :
    ((Expr.binary .integerDivide .null (.literal (.identifier "A"))).eval .replay .empty).runOn
      (.start ⟨[], []⟩) = (.ok .null, .start ⟨[], []⟩) := by
  have hvs : (Expr.evalAll .replay .empty [.null, .literal (.identifier "A")]).runOn
      (.start ⟨[], []⟩) = (.ok [.null, .single (.identifier "A")], .start ⟨[], []⟩) := by
    simp only [Expr.evalAll, Expr.eval]
    rfl
  exact (Expr.eval_eq_null_iff (by rfl) (by trivial) hvs ⟨.null, List.mem_cons_self, rfl⟩).2
    (by rfl)

/-- The field of an empty text is refused, though an empty text counts as NULL. -/
theorem fieldValue_of_empty_text :
    (Value.single (.string "")).isNull ∧
      ((Expr.unary (.fieldValue "f") (.literal (.string ""))).eval .replay .empty).runOn
          (.start ⟨[], []⟩) =
        (.error (.cardinalityMismatch "fieldValue" "record" "single string"),
          .start ⟨[], []⟩) := by
  refine ⟨by decide, ?_⟩
  simp only [Expr.eval]
  rfl

end Assessment
