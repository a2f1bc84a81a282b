import Assessment.Proofs.Expr.Computation
import Assessment.Proofs.Partial.Operator

/-!
# Evaluation with partial primitives

The evaluation of expressions with the operators that hold partial primitives, and with draws that
are asked for ranges that hold something only. It goes through the same expressions in the same
order; a primitive outside its domain breaks all of it down.

The steps in question are those that the program takes without a check: an index, an unwrapped
option, a division, a range handed to the source. Section B.10 of the specification asks for no
panics in library code. The one step that can break down is the arithmetic of `round_to_binary`,
which the plain evaluation has already as a fault (`Fault.breakdown`); the primitives here are the
others, and none of them ever breaks down.

* `Trial.Follows`: a trial does not break down and does what an evaluation does, on every trail.
* `follows_attempt`: one case for each kind of expression.
* `attempt_completes`: no expression breaks down, nor does a value that is fitted to a signature.
-/

namespace Assessment

open Numeric

variable {σ α β : Type}

/-! ## Trials -/

/-- A computation on a trail that may end in a fault or break down. -/
abbrev Trial (σ α : Type) := ExceptT Fault (StateT (Trail σ) Option) α

namespace Trial

/-- What a trial gives on a trail, and the trail after it; `none` for a breakdown. -/
def runOn (m : Trial σ α) (t : Trail σ) : Option (Except Fault α × Trail σ) := m t

/-- An attempt leaves the trail alone. -/
def ofAttempt (m : Attempt α) : Trial σ α := fun t => m.run.map fun r => (r, t)

/-- An evaluation without a partial primitive. -/
def ofEval (m : Eval σ α) : Trial σ α := fun t => some (m.runOn t)

/-- A result or a fault without a partial primitive. -/
def ofResult (r : Except Fault α) : Trial σ α := ofEval (Eval.ofExcept r)

/-- A trial does not break down, and does what an evaluation does. -/
def Follows (m : Trial σ α) (n : Eval σ α) : Prop := ∀ t, m.runOn t = some (n.runOn t)

theorem follows_ofEval (n : Eval σ α) : Follows (ofEval n) n := fun _ => rfl

theorem follows_pure (a : α) : Follows (pure a : Trial σ α) (pure a) := fun _ => rfl

theorem follows_ofAttempt {m : Attempt α} {r : Except Fault α} (h : m.EndsIn r) :
    Follows (ofAttempt m : Trial σ α) (Eval.ofExcept r) := fun t => by
  show m.run.map _ = _
  rw [h]
  rfl

/-- A chain of trials does what a chain of evaluations does; the second trial is on its way with
what the first evaluation gives only. -/
theorem follows_bind_of_ensures {P : α → Prop} {m : Trial σ α} {n : Eval σ α} {k : α → Trial σ β}
    {l : α → Eval σ β} (hm : Follows m n) (hn : n.Ensures P)
    (hk : ∀ a, P a → Follows (k a) (l a)) : Follows (m >>= k) (n >>= l) := fun t => by
  have hmt := hm t
  have hP := hn t
  show (m t >>= fun p => ExceptT.bindCont k p.1 p.2) = some ((n >>= l).runOn t)
  rw [show m t = some (n.runOn t) from hmt]
  rcases h : n.runOn t with ⟨r, u⟩
  cases r with
  | error e =>
    rw [show (n >>= l).runOn t = (.error e, u) from bind_apply_of_error h]
    rfl
  | ok a =>
    rw [Eval.runOn_bind_of_ok h]
    exact hk a (hP a (by rw [h])) u

theorem follows_bind {m : Trial σ α} {n : Eval σ α} {k : α → Trial σ β} {l : α → Eval σ β}
    (hm : Follows m n) (hk : ∀ a, Follows (k a) (l a)) : Follows (m >>= k) (n >>= l) :=
  follows_bind_of_ensures (P := fun _ => True) hm (fun _ _ _ => trivial) fun a _ => hk a

end Trial

open Trial

/-! ## Draws -/

/-- Draws the place of one of `n` things, counted from zero on; there is to be one. -/
def drawPlace! (env : Environment σ) (n : Nat) : Trial σ Int64 :=
  if n = 0 then fun _ => none
  else ofEval (Eval.drawInteger env 0 (Int64.ofInt (n - 1)))

/-- Draws a number of steps up to the last one, which is not to be below zero. -/
def drawStep! (env : Environment σ) (last : Int64) : Trial σ Int64 :=
  if last.toInt < 0 then fun _ => none
  else ofEval (Eval.drawInteger env 0 last)

/-- Draws an element of a container. -/
def drawElement! (env : Environment σ) (v : Value) : Trial σ Value :=
  if v.isNull then pure .null
  else do
    let c ← ofResult (containerOf "random" v)
    let i ← drawPlace! env c.size
    pure (.ofScalar? (elementAt c.items (i + 1)))

/-- Draws an integer of a grid. -/
def drawFrom! (env : Environment σ) : Option Grid → Trial σ Value
  | none => pure .null
  | some g => do
    let k ← drawStep! env g.steps
    pure (g.point k)

/-- A container that does not count as NULL has an element. -/
theorem size_of_containerOf {op : String} {v : Value} {c : Container} (hv : v.isNull = false)
    (h : containerOf op v = .ok c) : c.size ≠ 0 := by
  cases v with
  | multiple d | ordered d =>
    cases h
    simpa [Value.isNull, Container.isEmpty, Container.size] using hv
  | _ => cases h

/-- The integers between two ends are a number of steps that is not below zero. -/
theorem steps_of_gridBetween {low high step : Int64} {g : Grid} (hstep : 1 ≤ step.toInt)
    (h : gridBetween low high step = some g) : 0 ≤ g.steps.toInt := by
  rw [gridBetween] at h
  split at h
  · cases h
  · obtain ⟨span, hspan, h⟩ := Option.bind_eq_some_iff.1 h
    obtain ⟨steps, hsteps, h⟩ := Option.bind_eq_some_iff.1 h
    cases h
    have hspan : span.toInt = high.toInt - low.toInt := (fit?_eq_some_iff _ _).1 hspan
    rw [(fit?_eq_some_iff _ _).1 hsteps]
    exact Int.tdiv_nonneg (by omega) (by omega)

theorem steps_of_resolveGrid {store : Store} {min max step : IntegerAttribute} {g : Grid}
    (h : resolveGrid store min max step = .ok (some g)) : 0 ≤ g.steps.toInt := by
  obtain ⟨low, -, h⟩ := bind_eq_ok_iff.1 h
  obtain ⟨high, -, h⟩ := bind_eq_ok_iff.1 h
  obtain ⟨pace, -, h⟩ := bind_eq_ok_iff.1 h
  split at h
  · split at h
    · cases h
    · rename_i hpace
      exact steps_of_gridBetween (not_lt.1 hpace) (Except.ok.inj h)
  · cases h

theorem follows_drawElement! (env : Environment σ) (v : Value) :
    Follows (drawElement! env v) (drawElement env v) := by
  rw [drawElement!, drawElement]
  split
  · exact follows_pure _
  · rename_i hv
    refine follows_bind_of_ensures (P := fun c => c.size ≠ 0) (follows_ofEval _)
      (.ofExcept fun c hc => size_of_containerOf (Bool.not_eq_true _ ▸ hv) hc)
      fun c hc => ?_
    rw [drawPlace!, if_neg hc]
    exact follows_bind (follows_ofEval _) fun i => follows_pure _

theorem follows_drawFrom! {env : Environment σ} {store : Store} {min max step : IntegerAttribute}
    {grid : Option Grid} (h : resolveGrid store min max step = .ok grid) :
    Follows (drawFrom! env grid) (drawFrom env grid) := by
  cases grid with
  | none => exact follows_pure _
  | some g =>
    rw [drawFrom!, drawFrom, drawStep!, if_neg (not_lt.2 (steps_of_resolveGrid h))]
    exact follows_bind (follows_ofEval _) fun k => follows_pure _

/-! ## Expressions -/

namespace Expr

mutual

/-- The evaluation of an expression, with partial primitives. -/
def attempt (env : Environment σ) (store : Store) : Expr → Trial σ Value
  | .literal s => pure (.single s)
  | .null => pure .null
  | .constant c => pure (.ofFloat c.value)
  | .variable id weight => ofResult (variableValue env.session store id weight)
  | .correct id => ofResult (store.correct id)
  | .default id => ofResult (store.default id)
  | .mapResponse id => ofAttempt (mappedValue! store id)
  | .mapResponsePoint id => ofAttempt (mappedPoint! store id)
  | .randomInteger min max step => do
    let grid ← ofResult (resolveGrid store min max step)
    drawFrom! env grid
  | .randomFloat min max => do
    let range ← ofResult (resolveRange store min max)
    ofEval (drawWithin env range)
  | .lookup table source => do
    let v ← attempt env store source
    ofResult (table.resolve v)
  | .session query filter => do
    let s ← ofResult (env.requireSession query.name)
    ofAttempt (query.answer! s filter)
  | .random operand => do
    let v ← attempt env store operand
    drawElement! env v
  | .unary op operand => do
    let v ← attempt env store operand
    ofAttempt (op.apply! env.patterns store v)
  | .binary op left right => do
    let a ← attempt env store left
    let b ← attempt env store right
    ofAttempt (op.apply! store a b)
  | .variadic op operands => do
    let vs ← attemptAll env store operands
    ofAttempt (op.apply! vs)
  | .repetition count operands => do
    match ← ofResult (count.resolve "repeat" store) with
    | none => pure .null
    | some n =>
      let vs ← attemptAll env store operands
      ofAttempt (repeatValues! "repeat" n vs)
  | .junction j operands => attemptJunction env store j false operands
  | .anyN min max operands => do
    match ← ofResult (resolveBounds store min max) with
    | none => pure .null
    | some (min, max) =>
      let (trues, nulls) ← attemptCount env store operands
      pure (countBetween min max trues nulls)
  | .function f operands => do
    ofResult (checkArity "mathOperator" f operands.length)
    let vs ← attemptAll env store operands
    ofAttempt (functionValue! "mathOperator" f vs)
  | .custom key operands => do
    let vs ← attemptAll env store operands
    ofEval (applyCustom env key vs)

/-- The values of expressions, one after the other. -/
def attemptAll (env : Environment σ) (store : Store) : List Expr → Trial σ (List Value)
  | [] => pure []
  | e :: rest => do
    let v ← attempt env store e
    let vs ← attemptAll env store rest
    pure (v :: vs)

/-- The value of a junction, `sawNull` telling whether an earlier operand counted as NULL. -/
def attemptJunction (env : Environment σ) (store : Store) (j : Junction) (sawNull : Bool) :
    List Expr → Trial σ Value
  | [] => pure (if sawNull then .null else .ofBool (!j.decisive))
  | e :: rest => do
    let v ← attempt env store e
    if v.isNull then attemptJunction env store j true rest
    else
      let b ← ofResult (booleanOf j.name v)
      if b == j.decisive then pure (.ofBool b) else attemptJunction env store j sawNull rest

/-- How many operands are true, and how many count as NULL. -/
def attemptCount (env : Environment σ) (store : Store) : List Expr → Trial σ (Nat × Nat)
  | [] => pure (0, 0)
  | e :: rest => do
    let v ← attempt env store e
    if v.isNull then
      let (trues, nulls) ← attemptCount env store rest
      pure (trues, nulls + 1)
    else
      let b ← ofResult (booleanOf "anyN" v)
      let (trues, nulls) ← attemptCount env store rest
      pure (if b then trues + 1 else trues, nulls)

end

variable {env : Environment σ} {store : Store}

theorem length_of_evalAll (l : List Expr) :
    (evalAll env store l).Ensures fun vs => vs.length = l.length := by
  induction l with
  | nil =>
    rw [evalAll]
    exact .pure rfl
  | cons e rest ih =>
    rw [evalAll]
    refine .bind_right fun v => .bind ih fun vs hvs => .pure ?_
    rw [List.length_cons, List.length_cons, hvs]

/-- A function that has as many operands as it takes has one. -/
theorem ne_nil_of_checkArity {op : String} {f : Function} {operands : List Expr} {u : Unit}
    (h : checkArity op f operands.length = .ok u) : operands ≠ [] := by
  rintro rfl
  rw [checkArity] at h
  split at h
  · rename_i harity
    cases f <;> cases harity
  · cases h

mutual

/-- **The evaluation of an expression** does not break down. -/
theorem follows_attempt : ∀ e : Expr, Follows (e.attempt env store) (e.eval env store)
  | .literal s => by
    rw [attempt, eval]
    exact follows_pure _
  | .null => by
    rw [attempt, eval]
    exact follows_pure _
  | .constant c => by
    rw [attempt, eval]
    exact follows_pure _
  | .variable id weight => by
    rw [attempt, eval]
    exact follows_ofEval _
  | .correct id => by
    rw [attempt, eval]
    exact follows_ofEval _
  | .default id => by
    rw [attempt, eval]
    exact follows_ofEval _
  | .mapResponse id => by
    rw [attempt, eval]
    exact follows_ofAttempt (endsIn_mappedValue! store id)
  | .mapResponsePoint id => by
    rw [attempt, eval]
    exact follows_ofAttempt (endsIn_mappedPoint! store id)
  | .randomInteger min max step => by
    rw [attempt, eval]
    exact follows_bind_of_ensures (follows_ofEval _) (.ofExcept fun grid hgrid => hgrid)
      fun grid hgrid => follows_drawFrom! hgrid
  | .randomFloat min max => by
    rw [attempt, eval]
    exact follows_bind (follows_ofEval _) fun range => follows_ofEval _
  | .lookup table source => by
    rw [attempt, eval]
    exact follows_bind (follows_attempt source) fun v => follows_ofEval _
  | .session query filter => by
    rw [attempt, eval]
    exact follows_bind (follows_ofEval _) fun s =>
      follows_ofAttempt (query.endsIn_answer! s filter)
  | .random operand => by
    rw [attempt, eval]
    exact follows_bind (follows_attempt operand) fun v => follows_drawElement! env v
  | .unary op operand => by
    rw [attempt, eval]
    exact follows_bind (follows_attempt operand) fun v =>
      follows_ofAttempt (op.endsIn_apply! env.patterns store v)
  | .binary op left right => by
    rw [attempt, eval]
    refine follows_bind (follows_attempt left) fun a => ?_
    exact follows_bind (follows_attempt right) fun b =>
      follows_ofAttempt (op.endsIn_apply! store a b)
  | .variadic op operands => by
    rw [attempt, eval]
    exact follows_bind (follows_attemptAll operands) fun vs =>
      follows_ofAttempt (op.endsIn_apply! vs)
  | .repetition count operands => by
    rw [attempt, eval]
    refine follows_bind (follows_ofEval _) fun n => ?_
    cases n with
    | none => exact follows_pure _
    | some n =>
      exact follows_bind (follows_attemptAll operands) fun vs =>
        follows_ofAttempt (endsIn_repeatValues! "repeat" n vs)
  | .junction j operands => by
    rw [attempt, eval]
    exact follows_attemptJunction j false operands
  | .anyN min max operands => by
    rw [attempt, eval]
    refine follows_bind (follows_ofEval _) fun bounds => ?_
    cases bounds with
    | none => exact follows_pure _
    | some bounds => exact follows_bind (follows_attemptCount operands) fun _ => follows_pure _
  | .function f operands => by
    rw [attempt, eval]
    refine follows_bind_of_ensures (P := fun _ => operands ≠ []) (follows_ofEval _)
      (.ofExcept fun _ h => ne_nil_of_checkArity h) fun _ hne => ?_
    -- There are as many values as operands, so that there is a first one.
    refine follows_bind_of_ensures (follows_attemptAll operands) (length_of_evalAll operands)
      fun vs hvs => follows_ofAttempt (endsIn_functionValue! _ f ?_)
    rintro rfl
    exact hne (List.length_eq_zero_iff.1 hvs.symm)
  | .custom key operands => by
    rw [attempt, eval]
    exact follows_bind (follows_attemptAll operands) fun vs => follows_ofEval _

theorem follows_attemptAll :
    ∀ l : List Expr, Follows (attemptAll env store l) (evalAll env store l)
  | [] => by
    rw [attemptAll, evalAll]
    exact follows_pure _
  | e :: rest => by
    rw [attemptAll, evalAll]
    refine follows_bind (follows_attempt e) fun v => ?_
    exact follows_bind (follows_attemptAll rest) fun vs => follows_pure _

theorem follows_attemptJunction (j : Junction) :
    ∀ (sawNull : Bool) (l : List Expr),
      Follows (attemptJunction env store j sawNull l) (evalJunction env store j sawNull l)
  | sawNull, [] => by
    rw [attemptJunction, evalJunction]
    exact follows_pure _
  | sawNull, e :: rest => by
    rw [attemptJunction, evalJunction]
    refine follows_bind (follows_attempt e) fun v => ?_
    split
    · exact follows_attemptJunction j true rest
    · refine follows_bind (follows_ofEval _) fun b => ?_
      split
      · exact follows_pure _
      · exact follows_attemptJunction j sawNull rest

theorem follows_attemptCount :
    ∀ l : List Expr, Follows (attemptCount env store l) (countTrue env store l)
  | [] => by
    rw [attemptCount, countTrue]
    exact follows_pure _
  | e :: rest => by
    rw [attemptCount, countTrue]
    refine follows_bind (follows_attempt e) fun v => ?_
    split
    · exact follows_bind (follows_attemptCount rest) fun _ => follows_pure _
    · refine follows_bind (follows_ofEval _) fun b => ?_
      exact follows_bind (follows_attemptCount rest) fun _ => follows_pure _

end

/-- **No primitive is called outside its domain.** With partial primitives in their places, the
evaluation of every expression and the fitting of every value to a signature end as they do without
them: the first of several operands and the runs of a sequence, remainder and quotient, the vertices
and coordinates of a polygon, the flags of a mapping, the range of a draw, and containers made of
elements that are said to have one base type. -/
theorem attempt_completes (env : Environment σ) (store : Store) (e : Expr) :
    (∀ t : Trail σ, (e.attempt env store).runOn t = some ((e.eval env store).runOn t)) ∧
      ∀ (identifier : String) (v : Value) (signature : Signature),
        (conform! identifier v signature).EndsIn (conform identifier v signature) :=
  ⟨follows_attempt e, endsIn_conform!⟩

end Expr

end Assessment
