import Assessment.Proofs.Expr.Trail
import Assessment.Proofs.Variable.Agreement

/-!
# The names that an expression mentions

An expression mentions the names it reads by themselves, those of its attributes, and the one in
braces that its pattern may be. An evaluation depends on what the store holds under these, on the
state of the source, and on nothing else; the diagnostics recorded before it make no difference.

The statement is about two evaluations at once: on two stores, with two lists of diagnostics before
them, and one source. The induction is on the expression, and at every node the names of the
operands are among those of the node, so the lists of names only grow.

* `Expr.eval_inStep`: on stores that agree on the names mentioned, evaluations give the same, draw
  the same and record the same.
-/

namespace Assessment

open Numeric

variable {σ : Type}

/-! ## Names -/

/-- The name in an integer attribute. -/
def IntegerAttribute.mentions : IntegerAttribute → List String
  | .value _ => []
  | .variable id => [id]

/-- The name in a float attribute. -/
def FloatAttribute.mentions : FloatAttribute → List String
  | .value _ => []
  | .variable id => [id]

/-- The name in braces that a pattern may be. -/
def patternMentions (pattern : String) : List String :=
  ((insideBraces? pattern.toList).map String.ofList).toList

/-- The names in the attributes of an operator. -/
def UnaryOp.mentions : UnaryOp → List String
  | .index n => n.mentions
  | .patternMatch pattern => patternMentions pattern
  | .roundTo _ figures => figures.mentions
  | _ => []

/-- The names in the attributes of an operator. -/
def BinaryOp.mentions : BinaryOp → List String
  | .equal _ tolerance _ _ => tolerance.flatMap FloatAttribute.mentions
  | .equalRounded _ figures => figures.mentions
  | _ => []

mutual

/-- The names that an expression mentions. -/
def Expr.mentions : Expr → List String
  | .literal _ | .null | .constant _ | .session _ _ => []
  | .variable id _ | .correct id | .default id | .mapResponse id | .mapResponsePoint id => [id]
  | .randomInteger min max step => min.mentions ++ max.mentions ++ step.mentions
  | .randomFloat min max => min.mentions ++ max.mentions
  | .lookup _ source => source.mentions
  | .random operand => operand.mentions
  | .unary op operand => op.mentions ++ operand.mentions
  | .binary op left right => op.mentions ++ left.mentions ++ right.mentions
  | .variadic _ operands | .junction _ operands | .function _ operands | .custom _ operands =>
    Expr.mentionsAll operands
  | .repetition count operands => count.mentions ++ Expr.mentionsAll operands
  | .anyN min max operands => min.mentions ++ max.mentions ++ Expr.mentionsAll operands

/-- The names that expressions mention. -/
def Expr.mentionsAll : List Expr → List String
  | [] => []
  | e :: rest => e.mentions ++ Expr.mentionsAll rest

end

/-! ## Attributes and operators -/

section Agreement

variable {N : String → Prop} {s t : Store} (h : s.AgreesOn N t)

include h

theorem IntegerAttribute.resolve_of_agreesOn (op : String) :
    ∀ {a : IntegerAttribute}, (∀ id ∈ a.mentions, N id) → a.resolve op s = a.resolve op t
  | .value _, _ => rfl
  | .variable id, ha => by
    rw [resolve, resolve, Store.value_of_holding (h id (ha id List.mem_cons_self))]

theorem FloatAttribute.resolve_of_agreesOn (op : String) :
    ∀ {a : FloatAttribute}, (∀ id ∈ a.mentions, N id) → a.resolve op s = a.resolve op t
  | .value _, _ => rfl
  | .variable id, ha => by
    rw [resolve, resolve, Store.value_of_holding (h id (ha id List.mem_cons_self))]

theorem resolvePattern_of_agreesOn {pattern : String} (hp : ∀ id ∈ patternMentions pattern, N id) :
    resolvePattern s pattern = resolvePattern t pattern := by
  have hid : ∀ id, (insideBraces? pattern.toList).map String.ofList = some id →
      s.holding id = t.holding id := fun id hid =>
    h id (hp id (by rw [patternMentions, hid]; exact List.mem_singleton_self id))
  have href : patternReference? s pattern = patternReference? t pattern := by
    rw [patternReference?, patternReference?]
    cases hb : (insideBraces? pattern.toList).map String.ofList with
    | none => rfl
    | some id =>
      rw [Option.filter_some, Option.filter_some, Store.isDeclared_of_holding (hid id hb)]
  rw [resolvePattern, resolvePattern, href]
  split
  · rename_i id hr
    rw [Store.value_of_holding (hid id ((Option.filter_eq_some_iff.1 hr).1))]
  · rfl

theorem resolveWindow_of_agreesOn {tolerance : List FloatAttribute}
    (ht : ∀ id ∈ tolerance.flatMap FloatAttribute.mentions, N id) (op : String)
    (mode : ToleranceMode) (lower upper : Bool) :
    resolveWindow op s mode tolerance lower upper =
      resolveWindow op t mode tolerance lower upper := by
  have htol : resolveTolerance op s tolerance = resolveTolerance op t tolerance := by
    have hmem : ∀ a ∈ tolerance, a.resolve op s = a.resolve op t := fun a ha =>
      FloatAttribute.resolve_of_agreesOn h op fun id hid =>
        ht id (List.mem_flatMap.2 ⟨a, ha, hid⟩)
    match tolerance with
    | [] => rfl
    | [a] => rw [resolveTolerance, resolveTolerance, hmem a (by simp)]
    | [a, b] => rw [resolveTolerance, resolveTolerance, hmem a (by simp), hmem b (by simp)]
    | _ :: _ :: _ :: _ => rfl
  cases mode <;> simp only [resolveWindow, htol]

theorem UnaryOp.apply_of_agreesOn {op : UnaryOp} (ho : ∀ id ∈ op.mentions, N id)
    (patterns : Pattern.Engine) (v : Value) : op.apply patterns s v = op.apply patterns t v := by
  cases op with
  | index n =>
    simp only [apply]
    rw [IntegerAttribute.resolve_of_agreesOn h _ ho]
  | patternMatch pattern =>
    simp only [apply]
    rw [resolvePattern_of_agreesOn h ho]
  | roundTo mode figures =>
    simp only [apply]
    rw [IntegerAttribute.resolve_of_agreesOn h _ ho]
  | containerSize | isNull | fieldValue _ | not | inside _ _ | truncate | round | integerToFloat
    | statistic _ => rfl

theorem BinaryOp.apply_of_agreesOn {op : BinaryOp} (ho : ∀ id ∈ op.mentions, N id) (v w : Value) :
    op.apply s v w = op.apply t v w := by
  cases op with
  | equal mode tolerance lower upper =>
    simp only [apply]
    rw [resolveWindow_of_agreesOn h ho]
  | equalRounded mode figures =>
    simp only [apply]
    rw [IntegerAttribute.resolve_of_agreesOn h _ ho]
  | member | delete | contains | matching | stringMatch _ _ | substring _ | compare _ | durationLT
    | durationGTE | subtract | divide | power | integerDivide | integerModulus => rfl

/-! ## Parts of evaluations that look at the store -/

theorem variableValue_of_agreesOn {id : String} (hid : N id) (session : Option TestSession)
    (weight : Option String) :
    variableValue session s id weight = variableValue session t id weight := by
  simp only [variableValue, Store.isDeclared_of_holding (h id hid),
    Store.value_of_holding (h id hid)]

theorem mappedValue_of_agreesOn {id : String} (hid : N id) :
    mappedValue s id = mappedValue t id := by
  rw [mappedValue, mappedValue, Store.response_of_holding (h id hid)]

theorem mappedPoint_of_agreesOn {id : String} (hid : N id) :
    mappedPoint s id = mappedPoint t id := by
  rw [mappedPoint, mappedPoint, Store.response_of_holding (h id hid)]

theorem resolveGrid_of_agreesOn {min max step : IntegerAttribute}
    (hm : ∀ id ∈ min.mentions ++ max.mentions ++ step.mentions, N id) :
    resolveGrid s min max step = resolveGrid t min max step := by
  obtain ⟨hm, hstep⟩ := List.forall_mem_append.1 hm
  obtain ⟨hmin, hmax⟩ := List.forall_mem_append.1 hm
  rw [resolveGrid, resolveGrid, IntegerAttribute.resolve_of_agreesOn h _ hmin,
    IntegerAttribute.resolve_of_agreesOn h _ hmax, IntegerAttribute.resolve_of_agreesOn h _ hstep]

theorem resolveRange_of_agreesOn {min max : FloatAttribute}
    (hm : ∀ id ∈ min.mentions ++ max.mentions, N id) :
    resolveRange s min max = resolveRange t min max := by
  obtain ⟨hmin, hmax⟩ := List.forall_mem_append.1 hm
  rw [resolveRange, resolveRange, FloatAttribute.resolve_of_agreesOn h _ hmin,
    FloatAttribute.resolve_of_agreesOn h _ hmax]

theorem resolveBounds_of_agreesOn {min max : IntegerAttribute}
    (hm : ∀ id ∈ min.mentions ++ max.mentions, N id) :
    resolveBounds s min max = resolveBounds t min max := by
  obtain ⟨hmin, hmax⟩ := List.forall_mem_append.1 hm
  rw [resolveBounds, resolveBounds, IntegerAttribute.resolve_of_agreesOn h _ hmin,
    IntegerAttribute.resolve_of_agreesOn h _ hmax]

end Agreement

/-! ## Trails in tandem -/

/-- Two trails have the same state of the source and have got the same notes, one after those of
`old`, the other after those of `old'`. -/
structure Trail.Tandem (old old' : List Diagnostic) (t u : Trail σ) : Prop where
  source : t.source = u.source
  notes : ∃ added, t.diagnostics = old ++ added ∧ u.diagnostics = old' ++ added

namespace Eval

variable {α : Type} {old old' : List Diagnostic} {env : Environment σ}

theorem inStep_ofExcept {r r' : Except Fault α} (h : r = r') :
    InStep (Trail.Tandem (σ := σ) old old') (Eval.ofExcept r) (Eval.ofExcept r') :=
  fun _ _ htu => ⟨h, htu⟩

theorem inStep_drawInteger (low high : Int64) :
    InStep (Trail.Tandem old old') (drawInteger env low high) (drawInteger env low high) := by
  rintro ⟨source, d⟩ ⟨_, d'⟩ ⟨rfl, h⟩
  exact ⟨rfl, rfl, h⟩

theorem inStep_drawFloat (low high : Float) :
    InStep (Trail.Tandem old old') (drawFloat env low high) (drawFloat env low high) := by
  rintro ⟨source, d⟩ ⟨_, d'⟩ ⟨rfl, h⟩
  exact ⟨rfl, rfl, h⟩

theorem inStep_record (d : Diagnostic) :
    InStep (Trail.Tandem (σ := σ) old old') (record d) (record d) := by
  rintro ⟨source, _⟩ ⟨_, _⟩ ⟨rfl, added, rfl, rfl⟩
  exact ⟨rfl, rfl, added ++ [d], List.append_assoc .., List.append_assoc ..⟩

theorem inStep_drawFrom : ∀ g : Option Grid,
    InStep (Trail.Tandem old old') (drawFrom env g) (drawFrom env g)
  | none => .pure _
  | some g => .bind (inStep_drawInteger 0 g.steps) fun _ => .pure _

theorem inStep_drawWithin : ∀ r : Option (Float × Float),
    InStep (Trail.Tandem old old') (drawWithin env r) (drawWithin env r)
  | none => .pure _
  | some (low, high) => .bind (inStep_drawFloat low high) fun _ => .pure _

theorem inStep_drawElement (v : Value) :
    InStep (Trail.Tandem old old') (drawElement env v) (drawElement env v) := by
  unfold drawElement
  split
  · exact .pure _
  · refine .bind (inStep_ofExcept rfl) fun c => ?_
    exact .bind (inStep_drawInteger _ _) fun _ => .pure _

theorem inStep_applyCustom (key : OperatorKey) (vs : List Value) :
    InStep (Trail.Tandem old old') (applyCustom env key vs) (applyCustom env key vs) := by
  unfold applyCustom
  split
  · exact .bind (inStep_record _) fun _ => .pure _
  · split
    · exact .pure _
    · exact .bind (inStep_record _) fun _ => .pure _

end Eval

/-! ## Evaluations in tandem -/

namespace Expr

open Eval

variable {old old' : List Diagnostic} {env : Environment σ} {N : String → Prop} {s t : Store}

mutual

/-- **The evaluation of an expression** depends on the names that it mentions and on the state of
the source, by cases on the expression. -/
theorem eval_inStep (h : s.AgreesOn N t) : ∀ e : Expr, (∀ id ∈ e.mentions, N id) →
    InStep (Trail.Tandem old old') (e.eval env s) (e.eval env t)
  | .literal x, _ => by
    rw [eval, eval]
    exact .pure _
  | .null, _ => by
    rw [eval, eval]
    exact .pure _
  | .constant c, _ => by
    rw [eval, eval]
    exact .pure _
  | .variable id weight, hm => by
    rw [mentions, List.forall_mem_singleton] at hm
    rw [eval, eval]
    exact inStep_ofExcept (variableValue_of_agreesOn h hm _ _)
  | .correct id, hm => by
    rw [mentions, List.forall_mem_singleton] at hm
    rw [eval, eval]
    exact inStep_ofExcept (Store.correct_of_holding (h id hm))
  | .default id, hm => by
    rw [mentions, List.forall_mem_singleton] at hm
    rw [eval, eval]
    exact inStep_ofExcept (Store.default_of_holding (h id hm))
  | .mapResponse id, hm => by
    rw [mentions, List.forall_mem_singleton] at hm
    rw [eval, eval]
    exact inStep_ofExcept (mappedValue_of_agreesOn h hm)
  | .mapResponsePoint id, hm => by
    rw [mentions, List.forall_mem_singleton] at hm
    rw [eval, eval]
    exact inStep_ofExcept (mappedPoint_of_agreesOn h hm)
  | .randomInteger min max step, hm => by
    rw [mentions] at hm
    rw [eval, eval]
    exact .bind (inStep_ofExcept (resolveGrid_of_agreesOn h hm)) fun grid => inStep_drawFrom grid
  | .randomFloat min max, hm => by
    rw [mentions] at hm
    rw [eval, eval]
    exact .bind (inStep_ofExcept (resolveRange_of_agreesOn h hm)) fun range =>
      inStep_drawWithin range
  | .lookup table source, hm => by
    rw [mentions] at hm
    rw [eval, eval]
    exact .bind (eval_inStep h source hm) fun _ => inStep_ofExcept rfl
  | .session query filter, _ => by
    rw [eval, eval]
    exact .bind (inStep_ofExcept rfl) fun _ => inStep_ofExcept rfl
  | .random operand, hm => by
    rw [mentions] at hm
    rw [eval, eval]
    exact .bind (eval_inStep h operand hm) fun v => inStep_drawElement v
  | .unary op operand, hm => by
    obtain ⟨hop, hm⟩ := List.forall_mem_append.1 (by rwa [mentions] at hm)
    rw [eval, eval]
    exact .bind (eval_inStep h operand hm) fun v =>
      inStep_ofExcept (UnaryOp.apply_of_agreesOn h hop _ v)
  | .binary op left right, hm => by
    obtain ⟨hm, hright⟩ := List.forall_mem_append.1 (by rwa [mentions] at hm)
    obtain ⟨hop, hleft⟩ := List.forall_mem_append.1 hm
    rw [eval, eval]
    refine .bind (eval_inStep h left hleft) fun v => ?_
    exact .bind (eval_inStep h right hright) fun w =>
      inStep_ofExcept (BinaryOp.apply_of_agreesOn h hop v w)
  | .variadic op operands, hm => by
    rw [mentions] at hm
    rw [eval, eval]
    exact .bind (evalAll_inStep h operands hm) fun _ => inStep_ofExcept rfl
  | .repetition count operands, hm => by
    obtain ⟨hcount, hm⟩ := List.forall_mem_append.1 (by rwa [mentions] at hm)
    rw [eval, eval]
    refine .bind (inStep_ofExcept (IntegerAttribute.resolve_of_agreesOn h _ hcount)) fun n => ?_
    cases n with
    | none => exact .pure _
    | some n => exact .bind (evalAll_inStep h operands hm) fun _ => inStep_ofExcept rfl
  | .junction j operands, hm => by
    rw [mentions] at hm
    rw [eval, eval]
    exact evalJunction_inStep h j false operands hm
  | .anyN min max operands, hm => by
    obtain ⟨hbounds, hm⟩ := List.forall_mem_append.1 (by rwa [mentions] at hm)
    rw [eval, eval]
    refine .bind (inStep_ofExcept (resolveBounds_of_agreesOn h hbounds)) fun bounds => ?_
    cases bounds with
    | none => exact .pure _
    | some bounds => exact .bind (countTrue_inStep h operands hm) fun _ => .pure _
  | .function f operands, hm => by
    rw [mentions] at hm
    rw [eval, eval]
    refine .bind (inStep_ofExcept rfl) fun _ => ?_
    exact .bind (evalAll_inStep h operands hm) fun _ => inStep_ofExcept rfl
  | .custom key operands, hm => by
    rw [mentions] at hm
    rw [eval, eval]
    exact .bind (evalAll_inStep h operands hm) fun vs => inStep_applyCustom key vs

theorem evalAll_inStep (h : s.AgreesOn N t) : ∀ l : List Expr, (∀ id ∈ mentionsAll l, N id) →
    InStep (Trail.Tandem old old') (evalAll env s l) (evalAll env t l)
  | [], _ => by
    rw [evalAll, evalAll]
    exact .pure _
  | e :: rest, hm => by
    obtain ⟨he, hm⟩ := List.forall_mem_append.1 (by rwa [mentionsAll] at hm)
    rw [evalAll, evalAll]
    refine .bind (eval_inStep h e he) fun _ => ?_
    exact .bind (evalAll_inStep h rest hm) fun _ => .pure _

theorem evalJunction_inStep (h : s.AgreesOn N t) (j : Junction) :
    ∀ (sawNull : Bool) (l : List Expr), (∀ id ∈ mentionsAll l, N id) →
      InStep (Trail.Tandem old old') (evalJunction env s j sawNull l)
        (evalJunction env t j sawNull l)
  | sawNull, [], _ => by
    rw [evalJunction, evalJunction]
    exact .pure _
  | sawNull, e :: rest, hm => by
    obtain ⟨he, hm⟩ := List.forall_mem_append.1 (by rwa [mentionsAll] at hm)
    rw [evalJunction, evalJunction]
    refine .bind (eval_inStep h e he) fun v => ?_
    split
    · exact evalJunction_inStep h j true rest hm
    · refine .bind (inStep_ofExcept rfl) fun b => ?_
      split
      · exact .pure _
      · exact evalJunction_inStep h j sawNull rest hm

theorem countTrue_inStep (h : s.AgreesOn N t) : ∀ l : List Expr, (∀ id ∈ mentionsAll l, N id) →
    InStep (Trail.Tandem old old') (countTrue env s l) (countTrue env t l)
  | [], _ => by
    rw [countTrue, countTrue]
    exact .pure _
  | e :: rest, hm => by
    obtain ⟨he, hm⟩ := List.forall_mem_append.1 (by rwa [mentionsAll] at hm)
    rw [countTrue, countTrue]
    refine .bind (eval_inStep h e he) fun v => ?_
    split
    · exact .bind (countTrue_inStep h rest hm) fun _ => .pure _
    · refine .bind (inStep_ofExcept rfl) fun _ => ?_
      exact .bind (countTrue_inStep h rest hm) fun _ => .pure _

end

end Expr

end Assessment
