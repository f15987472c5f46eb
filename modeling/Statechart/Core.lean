import Statechart.Activity
import Statechart.Snapshot

/-!
# The core of an interpreter: what its steps are committed to

Steps are computed from a copy of the core and committed in one piece. A commit that enters a state
ends the activities of the instance before it, takes the next generation, and either ends the
machine or spawns the activities of the new instance.
-/
namespace Statechart

variable {M : Machine}

/-- Everything about an interpreter that a committed step, a stop or a fault changes. -/
structure Core (M : Machine) where
  status : Status
  state : M.State
  context : M.Context
  generation : Generation
  history : History M.State Unit
  /-- Whether a clock runs the activities. -/
  clocked : Bool
  fault : Option (Failure M.State)
  activities : List (Activity M)

namespace Core

/-- The core of an interpreter that has not been started. -/
def fresh (graph : Graph M) (options : Options) : Core M where
  status := .notStarted
  state := graph.initial
  context := graph.context
  generation := .first
  history := .bounded options.historyLimit
  clocked := false
  fault := none
  activities := []

def snapshot (core : Core M) : Snapshot M.State M.Context :=
  ⟨core.state, core.context, core.status⟩

/-- The live instance. -/
def origin (core : Core M) : Origin M := ⟨core.state, core.generation⟩

/-- Whether an event is for the live instance: an outcome of another one comes too late. -/
def accepts (core : Core M) (event : Event M) : Bool :=
  match event.origin with
  | none => true
  | some origin => origin = core.origin

/-- Whether a step is to be committed: something was taken, and nobody ended the interpreter in the
meantime. -/
def admits (core : Core M) (step : Step M) : Bool := core.status = .running && step.taken

/-- Makes a step's result the new truth. -/
def commit (core : Core M) (step : Step M) : Core M :=
  let settled := { core with
    state := step.state
    context := step.context
    history := step.records.foldl History.record core.history }
  match step.entry with
  | none => settled
  | some entry =>
    let entered := { settled with generation := core.generation.next, activities := [] }
    if M.isFinal step.state then { entered with status := .done }
    else if core.clocked then { entered with activities := entry.activities entered.origin }
    else entered

/-- Ends the interpreter with the given status; its activities are cancelled. -/
def close (core : Core M) (status : Status) (fault : Option (Failure M.State)) : Core M :=
  { core with status, fault, activities := [] }

end Core

end Statechart
