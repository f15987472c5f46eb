import Statechart.Bench.Stage
import Statechart.Declaration

/-!
# Performances: whole runs of bench charts
-/
namespace Statechart.Bench

/-- Enough steps for every performance that comes to an end in reasonable time. -/
def fuel : Nat := 100000000

/-- What is left when a performance is over. -/
structure Finale where
  answers : List Answer
  history : Option (History State Unit)
  fault : Option Fault
  cells : List (String × Int64)

/-- The performance of steps, beginning with a new interpreter. -/
def performance (fresh : Interpreter machine) (steps : List Step) : Act (List Answer) :=
  .ask (.replace (some fresh)) fun _ => performAll fresh steps

/-- Performs steps on a chart; nothing comes of a performance without end. -/
def perform? (graph : Graph machine) (options : Options) (stage : Stage) (steps : List Step) :
    Option Finale :=
  let fresh := Interpreter.fresh graph options
  (Site.follow (host fresh) fuel (performance fresh steps) { env := stage }).map
    fun (answers, site) =>
      let interpreter := site.current?
      { answers
        history := interpreter.map fun interpreter => interpreter.core.history
        fault := interpreter.bind fun interpreter => interpreter.core.fault
        cells := site.env.cells }

/-! ## Callbacks without an interpreter -/

def emptyGraph : Graph machine := ⟨"", .a, {}, []⟩

/-- The host of callbacks that no interpreter runs. -/
def bareHost : Host machine Stage := host (.fresh emptyGraph {})

/-- Runs a script where there is no interpreter. -/
def rehearse? {α : Type} (script : Script machine α) (stage : Stage) : Option (α × Stage) :=
  (Site.follow bareHost fuel (bareHost.enact true script) { env := stage }).map
    fun (result, site) => (result, site.env)

/-- A choice among transitions: the place of the chosen one, the marks that the choice left, and
for each transition whether it may be taken. -/
structure Choice where
  chosen : Option Nat
  marks : List Mark
  enabled : List Bool

/-- Chooses among transitions. -/
def choose? (transitions : List (Transition machine)) (context : Context)
    (event : Event machine) : Option Choice := do
  let (chosen, stage) ← rehearse? (selectIndex transitions context event) {}
  let enabled ← transitions.mapM fun transition =>
    (rehearse? (transition.isEnabled context event) {}).map Prod.fst
  return { chosen, marks := stage.marks.toList, enabled }

end Statechart.Bench
