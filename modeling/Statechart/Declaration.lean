import Statechart.Graph

/-!
# Declarations: statecharts as they are written down, and the problems found in them

A state is declared by a list of clauses, and a chart by a list of states. Building a chart checks
all of it and reports every problem, not only the first: what is missing, then state by state what
is declared twice, then an unknown initial state, then every target that is no declared state, in
the order of their texts.
-/
namespace Statechart

variable {M : Machine}

/-- One clause in the declaration of a service: a transition that one of its outcomes takes. -/
inductive ServiceClause (M : Machine) where
  | onDone (transition : Transition M)
  | onError (transition : Transition M)

/-- The service after one more clause. -/
def Service.declare (service : Service M) : ServiceClause M → Service M
  | .onDone transition => { service with onDone := service.onDone ++ [transition] }
  | .onError transition => { service with onError := service.onError ++ [transition] }

/-- The service that clauses amount to. -/
def Service.declared (id : String) (factory : M.Factory) (clauses : List (ServiceClause M)) : Service M :=
  clauses.foldl Service.declare ⟨id, factory, [], []⟩

/-- One clause in the declaration of a state. -/
inductive Clause (M : Machine) where
  | entry (action : Action M)
  | exit (action : Action M)
  | on (kind : M.Kind) (transition : Transition M)
  | always (transition : Transition M)
  | invoke (service : Service M)
  | after (span : Nat) (transition : Transition M)

/-- A state and its clauses. -/
structure StateDeclaration (M : Machine) where
  state : M.State
  clauses : List (Clause M)

/-- A chart as written down. -/
structure Declaration (M : Machine) where
  id : String := "machine"
  initial : Option M.State
  context : Option M.Context
  states : List (StateDeclaration M)

/-! ## Problems -/

/-- What can be wrong with a declaration. -/
inductive Problem (S : Type) where
  | missingInitialState
  | missingContext
  | noStates
  | unknownInitialState (state : S)
  | duplicateState (state : S)
  | unknownTarget (source target : S)
  | multipleServices (state : S)
  | multipleDelays (state : S)
  deriving DecidableEq, Repr

namespace Problem

variable {S : Type}

def name : Problem S → String
  | .missingInitialState => "MissingInitialState"
  | .missingContext => "MissingContext"
  | .noStates => "NoStates"
  | .unknownInitialState _ => "UnknownInitialState"
  | .duplicateState _ => "DuplicateState"
  | .unknownTarget _ _ => "UnknownTarget"
  | .multipleServices _ => "MultipleServices"
  | .multipleDelays _ => "MultipleDelays"

/-- A problem as told to people, given the names of the states. -/
def message (stateName : S → String) : Problem S → String
  | .missingInitialState =>
    "Initial state not specified. Call .initial(state) before .build()"
  | .missingContext => "Initial context not specified. Call .context(value) before .build()"
  | .noStates => "No states defined. Add at least one state"
  | .unknownInitialState state => "Initial state '" ++ stateName state ++ "' is not declared"
  | .duplicateState state => "State '" ++ stateName state ++ "' is declared more than once"
  | .unknownTarget source target =>
    "Transition from '" ++ stateName source ++ "' targets undeclared state '" ++
      stateName target ++ "'"
  | .multipleServices state =>
    "State '" ++ stateName state ++ "' declares more than one invoked service"
  | .multipleDelays state => "State '" ++ stateName state ++ "' declares more than one delay"

/-- A lone problem speaks for itself; several are counted and listed. -/
def report (stateName : S → String) : List (Problem S) → String
  | [problem] => problem.message stateName
  | problems =>
    toString problems.length ++ " problems: " ++
      "; ".intercalate (problems.map (message stateName))

end Problem

/-! ## Declaring a state -/

/-- Adds a transition behind those of its kind; a new kind goes last. -/
def Node.addOn (kind : M.Kind) (transition : Transition M) :
    List (M.Kind × List (Transition M)) → List (M.Kind × List (Transition M))
  | [] => [(kind, [transition])]
  | group :: rest =>
    if group.1 = kind then (group.1, group.2 ++ [transition]) :: rest
    else group :: addOn kind transition rest

/-- The node after one more clause, or the problem that keeps it as it was: a state has at most one
service, and all its delayed transitions share one delay. -/
def Node.declare (node : Node M) : Clause M → Except (Problem M.State) (Node M)
  | .entry action => .ok { node with entry := node.entry ++ [action] }
  | .exit action => .ok { node with exit := node.exit ++ [action] }
  | .on kind transition => .ok { node with on := addOn kind transition node.on }
  | .always transition => .ok { node with always := node.always ++ [transition] }
  | .invoke service =>
    match node.service with
    | none => .ok { node with service := some service }
    | some _ => .error (.multipleServices node.state)
  | .after span transition =>
    match node.delay with
    | none => .ok { node with delay := some ⟨span, [transition]⟩ }
    | some delay =>
      if delay.span = span then
        .ok { node with delay := some ⟨span, delay.transitions ++ [transition]⟩ }
      else
        .error (.multipleDelays node.state)

/-- Applies clauses in order and collects the problems of those that are refused. -/
def Node.declareAll (node : Node M) : List (Clause M) → Node M × List (Problem M.State)
  | [] => (node, [])
  | clause :: rest =>
    match node.declare clause with
    | .ok node => node.declareAll rest
    | .error problem =>
      let (node, problems) := node.declareAll rest
      (node, problem :: problems)

/-- The node that a declaration amounts to, and its problems. -/
def StateDeclaration.finish (declaration : StateDeclaration M) :
    Node M × List (Problem M.State) :=
  (Node.empty declaration.state).declareAll declaration.clauses

/-! ## Building a chart -/

/-- Puts a node in the place of the one for the same state, or last. -/
def insertNode (node : Node M) : List (Node M) → List (Node M)
  | [] => [node]
  | other :: rest =>
    if other.state = node.state then node :: rest else other :: insertNode node rest

/-- Gathers the nodes of the declared states, a later declaration of a state replacing an earlier
one, with the problems met on the way. -/
def collectNodes : List (StateDeclaration M) → List (Node M) →
    List (Node M) × List (Problem M.State)
  | [], nodes => (nodes, [])
  | declaration :: rest, nodes =>
    let (node, problems) := declaration.finish
    let repeated :=
      if nodes.any fun other => other.state = node.state then
        [Problem.duplicateState node.state]
      else []
    let (nodes, later) := collectNodes rest (insertNode node nodes)
    (nodes, problems ++ repeated ++ later)

/-- One problem for every transition whose target is no declared state. -/
def unknownTargets (nodes : List (Node M)) : List (Problem M.State) :=
  nodes.flatMap fun node =>
    (node.transitions.filterMap Transition.target).filterMap fun target =>
      if nodes.any fun other => other.state = target then none
      else some (.unknownTarget node.state target)

namespace Declaration

/-- The parts that a declaration lacks. -/
def missing (declaration : Declaration M) : List (Problem M.State) :=
  (if declaration.initial.isNone then [.missingInitialState] else []) ++
  (if declaration.context.isNone then [.missingContext] else []) ++
  (if declaration.states.isEmpty then [.noStates] else [])

/-- An initial state that is not among the declared ones, provided that there are any. -/
def unknownInitial (declaration : Declaration M) (nodes : List (Node M)) :
    List (Problem M.State) :=
  match declaration.initial with
  | none => []
  | some initial =>
    if nodes.isEmpty || nodes.any fun node => node.state = initial then []
    else [.unknownInitialState initial]

/-- Every problem of a declaration. -/
def problems (declaration : Declaration M) : List (Problem M.State) :=
  let (nodes, found) := collectNodes declaration.states []
  declaration.missing ++ found ++ declaration.unknownInitial nodes ++
    (unknownTargets nodes).mergeSort fun left right =>
      left.message M.stateName ≤ right.message M.stateName

/-- The graph of a declaration without problems, or all of its problems. -/
def build (declaration : Declaration M) : Except (List (Problem M.State)) (Graph M) :=
  match declaration.problems, declaration.initial, declaration.context with
  | [], some initial, some context =>
    .ok ⟨declaration.id, initial, context, (collectNodes declaration.states []).1⟩
  | problems, _, _ => .error problems

end Declaration

end Statechart
