import Assessment.Expr.Eval
import Assessment.Proofs.Result

/-!
# What evaluations leave on the trail

An evaluation draws from the source and records what custom operators report, and does nothing else
to the trail. `Eval.Covers` is what a relation between trails needs for evaluations to stay within
it.

The trail is the part of `EvalEnv` that evaluations change. Every draw goes through the source and
every diagnostic through `record`, in one place each, so a relation that covers those two covers the
whole of `eval_expr`.

* `Eval.Covers.within_eval`: evaluations stay within every relation that covers draws and the
  diagnostics of operators.
* `Trail.Extends`: the relation of having recorded nothing but such diagnostics.
-/

namespace Assessment

variable {σ α β : Type}

/-- Whether a diagnostic is about a template kept with a failing constraint. -/
def Diagnostic.isUnsatisfied : Diagnostic → Bool
  | .constraintUnsatisfied _ => true
  | _ => false

namespace Eval

variable {env : Environment σ} {R : Trail σ → Trail σ → Prop}

/-- A computation moves every trail within a relation, whether it gives a value or a fault. -/
def Within (R : Trail σ → Trail σ → Prop) (m : Eval σ α) : Prop :=
  ∀ t, R t (m.runOn t).2

/-- What a relation between trails needs for evaluations to stay within it: that nothing happens,
that one thing happens after another, draws, and diagnostics of operators. -/
structure Covers (env : Environment σ) (R : Trail σ → Trail σ → Prop) : Prop where
  refl : ∀ t, R t t
  trans : ∀ {t u v}, R t u → R u v → R t v
  drawInteger : ∀ low high, Within R (Eval.drawInteger env low high)
  drawFloat : ∀ low high, Within R (Eval.drawFloat env low high)
  record : ∀ d : Diagnostic, d.isUnsatisfied = false → Within R (Eval.record d)

namespace Covers

theorem within_pure (h : Covers env R) (a : α) : Within R (pure a : Eval σ α) :=
  fun t => h.refl t

theorem within_ofExcept (h : Covers env R) (r : Except Fault α) :
    Within R (Eval.ofExcept r : Eval σ α) :=
  fun t => h.refl t

theorem within_bind (h : Covers env R) {m : Eval σ α} {k : α → Eval σ β} (hm : Within R m)
    (hk : ∀ a, Within R (k a)) : Within R (m >>= k) :=
  fun t => Assessment.within_bind h.trans (hm t) fun a u _ => hk a u

/-! ## Draws and operators -/

theorem within_drawFrom (h : Covers env R) : ∀ g, Within R (drawFrom env g)
  | none => h.within_pure _
  | some g => h.within_bind (h.drawInteger 0 g.steps) fun _ => h.within_pure _

theorem within_drawWithin (h : Covers env R) : ∀ r, Within R (drawWithin env r)
  | none => h.within_pure _
  | some (low, high) => h.within_bind (h.drawFloat low high) fun _ => h.within_pure _

theorem within_drawElement (h : Covers env R) (v : Value) : Within R (drawElement env v) := by
  unfold drawElement
  split
  · exact h.within_pure _
  · refine h.within_bind (h.within_ofExcept _) fun c => ?_
    exact h.within_bind (h.drawInteger _ _) fun _ => h.within_pure _

/-- A custom operator records that it is unknown, that it fails, or nothing. -/
theorem within_applyCustom (h : Covers env R) (key : OperatorKey) (vs : List Value) :
    Within R (applyCustom env key vs) := by
  unfold applyCustom
  split
  · exact h.within_bind (h.record _ rfl) fun _ => h.within_pure _
  · split
    · exact h.within_pure _
    · exact h.within_bind (h.record _ rfl) fun _ => h.within_pure _

/-! ## Expressions -/

variable {s : Store}

mutual

/-- **The evaluation of an expression** stays within what covers draws and diagnostics. -/
theorem within_eval (h : Covers env R) : ∀ e : Expr, Within R (e.eval env s)
  | .literal x => by
    rw [Expr.eval]
    exact h.within_pure _
  | .null => by
    rw [Expr.eval]
    exact h.within_pure _
  | .constant c => by
    rw [Expr.eval]
    exact h.within_pure _
  | .variable id weight => by
    rw [Expr.eval]
    exact h.within_ofExcept _
  | .correct id => by
    rw [Expr.eval]
    exact h.within_ofExcept _
  | .default id => by
    rw [Expr.eval]
    exact h.within_ofExcept _
  | .mapResponse id => by
    rw [Expr.eval]
    exact h.within_ofExcept _
  | .mapResponsePoint id => by
    rw [Expr.eval]
    exact h.within_ofExcept _
  | .randomInteger min max step => by
    rw [Expr.eval]
    exact h.within_bind (h.within_ofExcept _) fun grid => h.within_drawFrom grid
  | .randomFloat min max => by
    rw [Expr.eval]
    exact h.within_bind (h.within_ofExcept _) fun range => h.within_drawWithin range
  | .lookup table source => by
    rw [Expr.eval]
    exact h.within_bind (within_eval h source) fun _ => h.within_ofExcept _
  | .session query filter => by
    rw [Expr.eval]
    exact h.within_bind (h.within_ofExcept _) fun _ => h.within_ofExcept _
  | .random operand => by
    rw [Expr.eval]
    exact h.within_bind (within_eval h operand) fun v => h.within_drawElement v
  | .unary op operand => by
    rw [Expr.eval]
    exact h.within_bind (within_eval h operand) fun _ => h.within_ofExcept _
  | .binary op left right => by
    rw [Expr.eval]
    refine h.within_bind (within_eval h left) fun _ => ?_
    exact h.within_bind (within_eval h right) fun _ => h.within_ofExcept _
  | .variadic op operands => by
    rw [Expr.eval]
    exact h.within_bind (within_evalAll h operands) fun _ => h.within_ofExcept _
  | .repetition count operands => by
    rw [Expr.eval]
    refine h.within_bind (h.within_ofExcept _) fun n => ?_
    cases n with
    | none => exact h.within_pure _
    | some n => exact h.within_bind (within_evalAll h operands) fun _ => h.within_ofExcept _
  | .junction j operands => by
    rw [Expr.eval]
    exact within_evalJunction h j false operands
  | .anyN min max operands => by
    rw [Expr.eval]
    refine h.within_bind (h.within_ofExcept _) fun bounds => ?_
    cases bounds with
    | none => exact h.within_pure _
    | some bounds => exact h.within_bind (within_countTrue h operands) fun _ => h.within_pure _
  | .function f operands => by
    rw [Expr.eval]
    refine h.within_bind (h.within_ofExcept _) fun _ => ?_
    exact h.within_bind (within_evalAll h operands) fun _ => h.within_ofExcept _
  | .custom key operands => by
    rw [Expr.eval]
    exact h.within_bind (within_evalAll h operands) fun vs => h.within_applyCustom key vs

theorem within_evalAll (h : Covers env R) : ∀ l : List Expr, Within R (Expr.evalAll env s l)
  | [] => by
    rw [Expr.evalAll]
    exact h.within_pure _
  | e :: rest => by
    rw [Expr.evalAll]
    refine h.within_bind (within_eval h e) fun _ => ?_
    exact h.within_bind (within_evalAll h rest) fun _ => h.within_pure _

theorem within_evalJunction (h : Covers env R) (j : Junction) :
    ∀ (sawNull : Bool) (l : List Expr), Within R (Expr.evalJunction env s j sawNull l)
  | sawNull, [] => by
    rw [Expr.evalJunction]
    exact h.within_pure _
  | sawNull, e :: rest => by
    rw [Expr.evalJunction]
    refine h.within_bind (within_eval h e) fun v => ?_
    split
    · exact within_evalJunction h j true rest
    · refine h.within_bind (h.within_ofExcept _) fun b => ?_
      split
      · exact h.within_pure _
      · exact within_evalJunction h j sawNull rest

theorem within_countTrue (h : Covers env R) : ∀ l : List Expr, Within R (Expr.countTrue env s l)
  | [] => by
    rw [Expr.countTrue]
    exact h.within_pure _
  | e :: rest => by
    rw [Expr.countTrue]
    refine h.within_bind (within_eval h e) fun v => ?_
    split
    · exact h.within_bind (within_countTrue h rest) fun _ => h.within_pure _
    · refine h.within_bind (h.within_ofExcept _) fun _ => ?_
      exact h.within_bind (within_countTrue h rest) fun _ => h.within_pure _

end

end Covers

end Eval

/-! ## Diagnostics -/

namespace Trail

/-- A trail has come from another by draws and by diagnostics that are not about templates. -/
def Extends (t u : Trail σ) : Prop :=
  ∃ added, u.diagnostics = t.diagnostics ++ added ∧ ∀ d ∈ added, d.isUnsatisfied = false

theorem Extends.refl (t : Trail σ) : t.Extends t :=
  ⟨[], (List.append_nil _).symm, by simp⟩

theorem Extends.trans {t u v : Trail σ} : t.Extends u → u.Extends v → t.Extends v := by
  rintro ⟨l, hl, hl'⟩ ⟨m, hm, hm'⟩
  refine ⟨l ++ m, by rw [hm, hl, List.append_assoc], fun d hd => ?_⟩
  rcases List.mem_append.1 hd with hd | hd
  · exact hl' d hd
  · exact hm' d hd

theorem covers_extends (env : Environment σ) : Eval.Covers env Extends where
  refl := Extends.refl
  trans := Extends.trans
  drawInteger _ _ _ := ⟨[], (List.append_nil _).symm, by simp⟩
  drawFloat _ _ _ := ⟨[], (List.append_nil _).symm, by simp⟩
  record d hd t := ⟨[d], rfl, by simpa using hd⟩

end Trail

end Assessment
