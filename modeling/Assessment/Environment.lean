import Assessment.Diagnostic
import Assessment.Operator
import Assessment.Pattern.Match
import Assessment.Random
import Assessment.Session.Aggregate

/-!
# What an evaluation stands on

The evaluator's `EvalEnv`, in two parts. An `Environment` is consulted and never changes: the random
source, the custom operators, the test session where there is one, and the engine that compiles
patterns. A `Trail` is what evaluations change: the state of the source and the diagnostics recorded
so far.

* `Eval σ α` is a computation on the trail that may end in a fault; the trail is there after a fault
  too, with all that was drawn and recorded before it.
* Every collaborator is a parameter. What is proved of evaluations holds of every source, registry,
  session and engine, or says what it asks of them.
* `Environment.replay` is the smallest one: a script for a source, no operator, no session, and the
  engine that is built in.
-/

namespace Assessment

/-- What an evaluation consults. -/
structure Environment (σ : Type) where
  random : RandomSource σ
  operators : Registry
  session : Option TestSession
  patterns : Pattern.Engine

/-- An environment that replays draws, without operators and without a session. -/
def Environment.replay : Environment RandomSource.Script := ⟨.scripted, .empty, none, .builtin⟩

/-- What evaluations change. -/
structure Trail (σ : Type) where
  source : σ
  /-- The diagnostics recorded so far, the earliest first. -/
  diagnostics : List Diagnostic

/-- A trail without diagnostics. -/
def Trail.start {σ : Type} (source : σ) : Trail σ := ⟨source, []⟩

/-- A computation that draws, records diagnostics and may end in a fault. -/
abbrev Eval (σ α : Type) := ExceptT Fault (StateM (Trail σ)) α

namespace Eval

variable {σ α : Type}

/-- The result of a computation on a trail, and the trail after it. -/
def runOn (m : Eval σ α) (t : Trail σ) : Except Fault α × Trail σ := m t

/-- A result that leaves the trail alone. -/
def ofExcept (r : Except Fault α) : Eval σ α := fun t => (r, t)

/-- Draws an integer from a range with both its ends. -/
def drawInteger (env : Environment σ) (low high : Int64) : Eval σ Int64 := fun t =>
  let (n, source) := env.random.integer low high t.source
  (.ok n, { t with source })

/-- Draws a float from a range without its upper end. -/
def drawFloat (env : Environment σ) (low high : Float) : Eval σ Float := fun t =>
  let (x, source) := env.random.float low high t.source
  (.ok x, { t with source })

/-- Records a diagnostic after all others. -/
def record (d : Diagnostic) : Eval σ Unit := fun t =>
  (.ok (), { t with diagnostics := t.diagnostics ++ [d] })

end Eval

/-- The test session; a fault that names what needs one where there is none (`EvalEnv::session`). -/
def Environment.requireSession {σ : Type} (env : Environment σ) (expression : String) :
    Except Fault TestSession :=
  match env.session with
  | some s => .ok s
  | none => .error (.noTestSession expression)

end Assessment
