import Statechart.Macrostep

/-!
# Activities: the service and the timer of the live instance

Entering a state spawns its service and then its timer. A spawned activity waits in a queue until
the clock gets to run, and its latency or delay counts from then on. Times are in milliseconds.
-/
namespace Statechart

variable {M : Machine}

/-- What an activity does. -/
inductive Job (M : Machine) where
  | service (task : M.Task)
  | timer (span : Nat)

/-- How far an activity has come. -/
inductive Phase where
  /-- Spawned, not yet begun. -/
  | queued
  /-- Begun, and asleep until the given time. -/
  | asleep (due : Nat)
  deriving DecidableEq, Repr

/-- An activity of one state instance. -/
structure Activity (M : Machine) where
  origin : Origin M
  job : Job M
  phase : Phase

namespace Activity

def isQueued (activity : Activity M) : Bool := activity.phase = .queued

/-- When a sleeping activity goes on. -/
def due? (activity : Activity M) : Option Nat :=
  match activity.phase with
  | .queued => none
  | .asleep due => some due

end Activity

/-- The activities that entering a state spawns, the service before the timer. -/
def Entry.activities (entry : Entry M) (origin : Origin M) : List (Activity M) :=
  (entry.service.toList.map fun task => ⟨origin, .service task, .queued⟩) ++
    (entry.delay.toList.map fun span => ⟨origin, .timer span, .queued⟩)

/-- What a task comes to when it runs: an outcome, or a sleep and what is left to do after it. -/
inductive Progress (M : Machine) where
  | resolved (outcome : Except M.Error M.Output)
  | sleeping (span : Nat) (rest : M.Task)

/-- The event by which the outcome of a service is delivered. -/
def Event.ofOutcome (origin : Origin M) : Except M.Error M.Output → Event M
  | .ok output => .done origin output
  | .error error => .failed origin error

end Statechart
