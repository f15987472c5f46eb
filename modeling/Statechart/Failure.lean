import Statechart.Action

/-!
# Failures: why an interpreter refused a call or abandoned a step
-/
namespace Statechart

/-- What can go wrong with an interpreter. A guard that does not pass and an outcome that comes too
late are no failures. -/
inductive Failure (S : Type) where
  | alreadyStarted
  | notStarted
  /-- Services or timers are declared, and the caller has no clock to run them. -/
  | noClock
  | effectFailed (state : S) (action : String) (cause : ActionError)
  | microstepLimit (state : S) (limit : UInt64)
  deriving DecidableEq, Repr

namespace Failure

variable {S : Type}

def name : Failure S → String
  | .alreadyStarted => "AlreadyStarted"
  | .notStarted => "NotStarted"
  | .noClock => "NoRuntime"
  | .effectFailed _ _ _ => "EffectFailed"
  | .microstepLimit _ _ => "MicrostepLimit"

/-- A failure as told to people, given the names of the states. -/
def message (stateName : S → String) : Failure S → String
  | .alreadyStarted => "Interpreter already started"
  | .notStarted => "Interpreter has not been started. Call .start() before sending events"
  | .noClock => "Machine invokes services or arms delays but no tokio runtime is available"
  | .effectFailed state action cause =>
    "Action '" ++ action ++ "' failed in state '" ++ stateName state ++ "': " ++ cause.message
  | .microstepLimit state limit =>
    "State '" ++ stateName state ++ "' did not settle within " ++ toString limit.toNat ++
      " eventless transitions"

end Failure

end Statechart
