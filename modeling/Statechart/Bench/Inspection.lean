import Statechart.Bench.Vocabulary
import Statechart.Graph

/-!
# Inspection: what a chart declares
-/
namespace Statechart.Bench

/-- The order of targets: none comes first, then states in their order. -/
def targetOrder : Option State → Nat
  | none => 0
  | some state => State.all.idxOf state + 1

/-- The targets of all transitions of a node, in order. -/
def allTargets (node : Node machine) : List (Option State) :=
  (node.transitions.map Transition.target).mergeSort fun left right =>
    targetOrder left ≤ targetOrder right

/-- The transitions of a node that signals set off, in the order of their kinds. -/
def signalTransitions (node : Node machine) : List (Kind × List (Transition machine)) :=
  Kind.all.filterMap fun kind =>
    if node.on.any fun group => group.1 = kind then some (kind, node.onKind kind) else none

end Statechart.Bench
