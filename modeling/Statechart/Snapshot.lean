/-!
# Snapshots: what the outside sees of a running machine
-/
namespace Statechart

/-- The stages in the life of an interpreter. -/
inductive Status where
  | notStarted
  | running
  /-- Settled in a final state. -/
  | done
  /-- Stopped by its owner. -/
  | stopped
  /-- The outcome of an activity could not be processed. -/
  | failed
  deriving DecidableEq, Repr

namespace Status

def name : Status → String
  | .notStarted => "NotStarted"
  | .running => "Running"
  | .done => "Done"
  | .stopped => "Stopped"
  | .failed => "Failed"

/-- A status as shown to people. -/
def display : Status → String
  | .notStarted => "not started"
  | .running => "running"
  | .done => "done"
  | .stopped => "stopped"
  | .failed => "failed"

/-- Every status, in the order of an interpreter's life. -/
def all : List Status := [.notStarted, .running, .done, .stopped, .failed]

def ofName? (text : String) : Option Status := all.find? fun status => status.name == text

/-- Whether an event sent now is processed. -/
def acceptsEvents (status : Status) : Bool := status = .running

/-- Whether the interpreter has ended for good. -/
def isTerminal : Status → Bool
  | .done => true
  | .stopped => true
  | .failed => true
  | _ => false

end Status

/-- State, context and status at one moment. -/
structure Snapshot (S C : Type) where
  state : S
  context : C
  status : Status
  deriving DecidableEq, Repr

/-- Whether the machine sits in the given state. -/
def Snapshot.isIn {S C : Type} [DecidableEq S] (snapshot : Snapshot S C) (state : S) : Bool :=
  snapshot.state = state

end Statechart
