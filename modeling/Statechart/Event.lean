import Statechart.Machine

/-!
# Events: signals from callers and outcomes of activities

A signal comes from a caller. An outcome comes from the service or the timer of one state
instance and carries the origin of that instance, so that the outcome of an instance that has been
left can be told from that of the live one.
-/
namespace Statechart

/-- Which entry into a state is meant; every entry takes the next one. -/
structure Generation where
  value : UInt64
  deriving DecidableEq, Repr

namespace Generation

/-- The generation before any state has been entered. -/
def first : Generation := ⟨0⟩

/-- The generation of the next entry. -/
def next (generation : Generation) : Generation := ⟨generation.value + 1⟩

/-- A generation is shown as a number behind a hash sign. -/
def display (generation : Generation) : String := "#" ++ toString generation.value.toNat

/-- The later of two generations is the one with the greater number. -/
def isAfter (left right : Generation) : Bool := right.value < left.value

end Generation

/-- One instance of a state: the state and the generation of its entry. -/
structure Origin (M : Machine) where
  state : M.State
  generation : Generation
  deriving DecidableEq

/-- What a machine reacts to. -/
inductive Event (M : Machine) where
  | init
  | signal (sent : M.Signal)
  /-- The service of an instance resolved. -/
  | done (origin : Origin M) (output : M.Output)
  /-- The service of an instance was rejected. -/
  | failed (origin : Origin M) (error : M.Error)
  /-- The delay of an instance is over. -/
  | elapsed (origin : Origin M)

namespace Event

variable {M : Machine}

/-- The instance an outcome belongs to; nothing for what callers send. -/
def origin : Event M → Option (Origin M)
  | .init => none
  | .signal _ => none
  | .done origin _ => some origin
  | .failed origin _ => some origin
  | .elapsed origin => some origin

def signal? : Event M → Option M.Signal
  | .signal sent => some sent
  | _ => none

def kind? (event : Event M) : Option M.Kind := event.signal?.map M.kind

/-- What the service resolved with. -/
def output? : Event M → Option M.Output
  | .done _ output => some output
  | _ => none

/-- What the service was rejected with. -/
def error? : Event M → Option M.Error
  | .failed _ error => some error
  | _ => none

/-- The short name that history records carry as their trigger. -/
def label : Event M → String
  | .init => "init"
  | .signal sent => M.kindName (M.kind sent)
  | .done _ _ => "done"
  | .failed _ _ => "error"
  | .elapsed _ => "after"

end Event

/-! ## Written out in full -/

/-- An origin with its fields spelled out. -/
def Origin.describe {M : Machine} (origin : Origin M) : String :=
  "Origin \x7b state: " ++ M.stateName origin.state ++ ", generation: Generation(" ++
    toString origin.generation.value.toNat ++ ") \x7d"

/-- An event with its fields spelled out, given how payloads are written. -/
def Event.describe {M : Machine} (signalText : M.Signal → String) (outputText : M.Output → String)
    (errorText : M.Error → String) : Event M → String
  | .init => "Init"
  | .signal sent => "External(" ++ signalText sent ++ ")"
  | .done origin output =>
    "Done \x7b origin: " ++ origin.describe ++ ", output: " ++ outputText output ++ " \x7d"
  | .failed origin error =>
    "Failed \x7b origin: " ++ origin.describe ++ ", error: " ++ errorText error ++ " \x7d"
  | .elapsed origin => "After \x7b origin: " ++ origin.describe ++ " \x7d"

end Statechart
