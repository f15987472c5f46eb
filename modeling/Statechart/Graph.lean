import Statechart.Transition

/-!
# Graphs: the nodes of a statechart and where its transitions are kept

A node holds what belongs to one state. Transitions are kept by what sets them off: the kind of a
signal, the service, the delay, or nothing at all. `candidates` reads them by event, `transitions`
reads them all.
-/
namespace Statechart

variable {M : Machine}

/-- A service run while its state is live, with the transitions its outcomes take. -/
structure Service (M : Machine) where
  id : String
  factory : M.Factory
  onDone : List (Transition M)
  onError : List (Transition M)

/-- A delay counted from entry, in milliseconds, with the transitions taken when it is over. -/
structure Delay (M : Machine) where
  span : Nat
  transitions : List (Transition M)

/-- A state with its actions, its transitions and its activities. -/
structure Node (M : Machine) where
  state : M.State
  entry : List (Action M)
  exit : List (Action M)
  on : List (M.Kind × List (Transition M))
  always : List (Transition M)
  service : Option (Service M)
  delay : Option (Delay M)

namespace Node

def empty (state : M.State) : Node M :=
  { state, entry := [], exit := [], on := [], always := [], service := none, delay := none }

/-- The transitions declared for a kind of signal, in order of declaration. -/
def onKind (node : Node M) (kind : M.Kind) : List (Transition M) :=
  match node.on.find? fun group => group.1 = kind with
  | none => []
  | some group => group.2

/-- The transitions an event may set off, in order of declaration. -/
def candidates (node : Node M) : Event M → List (Transition M)
  | .init => []
  | .signal sent => node.onKind (M.kind sent)
  | .done _ _ => (node.service.map Service.onDone).getD []
  | .failed _ _ => (node.service.map Service.onError).getD []
  | .elapsed _ => (node.delay.map Delay.transitions).getD []

def transitions (node : Node M) : List (Transition M) :=
  node.on.flatMap Prod.snd ++ node.always ++
    (match node.service with
      | none => []
      | some service => service.onDone ++ service.onError) ++
    (match node.delay with
      | none => []
      | some delay => delay.transitions)

/-- Whether entering the state starts a service or a timer. -/
def hasActivities (node : Node M) : Bool := node.service.isSome || node.delay.isSome

end Node

/-- A statechart: its nodes, where it begins and with which context. -/
structure Graph (M : Machine) where
  id : String
  initial : M.State
  context : M.Context
  nodes : List (Node M)

namespace Graph

def node? (graph : Graph M) (state : M.State) : Option (Node M) :=
  graph.nodes.find? fun node => node.state = state

def states (graph : Graph M) : List M.State := graph.nodes.map Node.state

/-- The names of the declared states, in alphabetical order. -/
def stateNames (graph : Graph M) : List String := (graph.states.map M.stateName).mergeSort

/-- Whether any state starts a service or a timer, so that the machine needs a clock. -/
def requiresClock (graph : Graph M) : Bool := graph.nodes.any Node.hasActivities

end Graph

end Statechart
