import Statechart.Failure
import Statechart.Graph
import Statechart.History
import Statechart.Options

/-!
# Macrosteps: what one event does to a state and a context

An event takes the first of its transitions that may be taken, and then, one after another, the
eventless transitions of whatever state has been reached, until none may be taken. A macrostep is
computed apart from any interpreter: its result is a proposal, and a failure anywhere in it leaves
nothing behind but what the callbacks did outside.
-/
namespace Statechart

variable {M : Machine}

/-- The activities of the state entered last. -/
structure Entry (M : Machine) where
  service : Option M.Task
  delay : Option Nat

/-- The result of a macrostep, or of a part of one. -/
structure Step (M : Machine) where
  state : M.State
  context : M.Context
  /-- Present once a state has been entered. -/
  entry : Option (Entry M)
  /-- The transitions with a target, in the order they were taken. -/
  records : List (Record M.State Unit)
  /-- Whether any transition has been taken. -/
  taken : Bool

/-- The step that does nothing. -/
def Step.unchanged (state : M.State) (context : M.Context) : Step M :=
  { state, context, entry := none, records := [], taken := false }

/-- A part of a macrostep: a script that may fail. -/
abbrev Move (M : Machine) : Type → Type := ExceptT (Failure M.State) (Script M)

/-- The trigger that records of eventless transitions carry. -/
def alwaysTrigger : String := "always"

namespace Graph

/-- Runs actions on behalf of a state, which a failure names. -/
def runIn (state : M.State) (actions : List (Action M)) (context : M.Context)
    (event : Event M) : Move M M.Context :=
  ExceptT.mk do
    match ← runActions actions context event with
    | .ok context => return .ok context
    | .error (action, cause) => return .error (.effectFailed state action cause)

/-- Has the service of a node made, if it declares one. -/
def makeService (node : Node M) (context : M.Context) (event : Event M) :
    Script M (Option M.Task) :=
  match node.service with
  | none => .done none
  | some service => .ask (.create service.factory context event) fun task => .done (some task)

/-- Enters a state: runs its entry actions, then has its service made. -/
def enter (graph : Graph M) (step : Step M) (target : M.State) (event : Event M) :
    Move M (Step M) :=
  match graph.node? target with
  | none => return { step with state := target, entry := some ⟨none, none⟩ }
  | some node => do
    let context ← runIn target node.entry step.context event
    let service ← ExceptT.lift (makeService node context event)
    return { step with
      state := target, context, entry := some ⟨service, node.delay.map Delay.span⟩ }

/-- The actions run when a state is left. -/
def exitActions (graph : Graph M) (state : M.State) : List (Action M) :=
  match graph.node? state with
  | none => []
  | some node => node.exit

/-- Takes a transition. Without a target it runs its own actions; with one it runs the exit actions
of the source, its own, and enters the target. -/
def take (graph : Graph M) (step : Step M) (transition : Transition M) (event : Event M)
    (trigger : String) : Move M (Step M) :=
  match transition.target with
  | none => do
    let context ← runIn step.state transition.actions step.context event
    return { step with context, taken := true }
  | some target => do
    let context ← runIn step.state (graph.exitActions step.state) step.context event
    let context ← runIn step.state transition.actions context event
    let taken : Record M.State Unit := ⟨step.state, target, trigger, ()⟩
    graph.enter { step with context, taken := true, records := step.records ++ [taken] } target
      event

/-- The eventless transition that may be taken where a step stands. -/
def selectAlways (graph : Graph M) (step : Step M) (event : Event M) :
    Script M (Option (Transition M)) :=
  match graph.node? step.state with
  | none => return none
  | some node => select node.always step.context event

/-- Takes eventless transitions until none may be taken. When `remaining` of them have been taken
and another one may be, the step fails. -/
def settle (graph : Graph M) (limit : UInt64) (event : Event M) :
    Nat → Step M → Move M (Step M)
  | 0, step => do
    match ← ExceptT.lift (graph.selectAlways step event) with
    | none => return step
    | some _ => throw (.microstepLimit step.state limit)
  | remaining + 1, step => do
    match ← ExceptT.lift (graph.selectAlways step event) with
    | none => return step
    | some transition =>
      let step ← graph.take step transition event alwaysTrigger
      graph.settle limit event remaining step

/-- The macrostep of a start: the initial state is entered and settles. -/
def begin (graph : Graph M) (limit : UInt64) : Move M (Step M) := do
  let start := { Step.unchanged graph.initial graph.context with taken := true }
  let step ← graph.enter start graph.initial .init
  graph.settle limit .init limit.toNat step

/-- The transitions an event may set off in a state. -/
def candidates (graph : Graph M) (state : M.State) (event : Event M) : List (Transition M) :=
  match graph.node? state with
  | none => []
  | some node => node.candidates event

/-- The macrostep of an event in a state; without a transition to take, the step that does
nothing. -/
def react (graph : Graph M) (limit : UInt64) (state : M.State) (context : M.Context)
    (event : Event M) : Move M (Step M) := do
  match ← ExceptT.lift (select (graph.candidates state event) context event) with
  | none => return Step.unchanged state context
  | some transition =>
    let step ← graph.take (Step.unchanged state context) transition event event.label
    graph.settle limit event limit.toNat step

end Graph

end Statechart
