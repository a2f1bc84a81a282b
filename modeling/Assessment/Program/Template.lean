import Assessment.Program.Execute

/-!
# Template variants

A template program draws a variant of an item: `instantiate_template` (section B.4.5 of the
specification). A variant that fails a constraint is rejected, and another attempt starts from the
store as it was, its template variables reset; only the random source and the diagnostics go on. The
last attempt allowed is kept even when its constraint fails, which a diagnostic records. An exit
other than a failed constraint accepts the variant.

`attemptFrom` recurs on the number of attempts that are left, so a program always ends.
-/

namespace Assessment

/-- How the making of a variant ended. -/
structure Variant where
  attempts : Nat
  /-- Whether no constraint failed. -/
  satisfied : Bool
  signal : Signal
deriving DecidableEq, Repr

variable {σ : Type}

/-- Takes back what rejected variants have written, when there were any. -/
def rollBack (entry : Store) : Nat → Exec σ Unit
  | 0 => pure ()
  | _ + 1 => Exec.update fun _ => .ok entry

/-- One attempt after a number of rejected ones. -/
def attempt (env : Environment σ) (p : Program) (entry : Store) (made : Nat) : Exec σ Signal := do
  rollBack entry made
  Exec.update fun store => .ok store.resetTemplates
  p.run env

/-- Makes attempts from the `made + 1`st on, with `left` more of them after it. -/
def attemptFrom (env : Environment σ) (p : Program) (entry : Store) :
    Nat → Nat → Exec σ Variant
  | made, 0 => do
    let signal ← attempt env p entry made
    if signal = .constraintFailed then
      Exec.record (.constraintUnsatisfied (made + 1))
      pure ⟨made + 1, false, signal⟩
    else pure ⟨made + 1, true, signal⟩
  | made, left + 1 => do
    let signal ← attempt env p entry made
    if signal = .constraintFailed then attemptFrom env p entry (made + 1) left
    else pure ⟨made + 1, true, signal⟩

/-- Makes a variant in as many attempts as allowed, one at least (`instantiate_template`). -/
def instantiate (env : Environment σ) (p : Program) (maxAttempts : Nat) : Exec σ Variant :=
  fun s => attemptFrom env p s.store 0 (maxAttempts - 1) s

end Assessment
