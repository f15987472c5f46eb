import Statechart.Proofs.Building
import Statechart.Proofs.Mail
import Statechart.Proofs.Walks

/-!
# Closure: runs that stay inside their graph

A graph is closed if it has a node for its initial state and for every state that a transition points at; whatever
is built is closed (`Declaration.closed`). Microsteps lead only where transitions point, so a run over a closed
graph never comes to a state without a node, whatever its callbacks answer, and what another graph has for such
states makes no difference to it (`built_graphs_closed`).
-/
namespace Statechart

variable {M : Machine} {graph other : Graph M} {options : Options}

/-! ## Closed graphs -/

namespace Graph

/-- Wherever its transitions lead, and where it begins, the graph has a node. -/
structure Closed (graph : Graph M) : Prop where
  initial : graph.initial ∈ graph.states
  targets : ∀ node ∈ graph.nodes, ∀ transition ∈ node.transitions, ∀ target, transition.target = some target →
    target ∈ graph.states

/-- For the states of a graph, another one has the same nodes; for other states it may have any. -/
structure PartOf (graph other : Graph M) : Prop where
  initial : other.initial = graph.initial
  context : other.context = graph.context
  nodes : ∀ state ∈ graph.states, other.node? state = graph.node? state

theorem mem_states_iff (graph : Graph M) (state : M.State) :
    state ∈ graph.states ↔ ∃ node, graph.node? state = some node := by
  rw [← Option.isSome_iff_exists,node?,List.find?_isSome]
  simp [states]

theorem node?_eq_none {state : M.State} (unknown : state ∉ graph.states) : graph.node? state = none := by
  rw [Option.eq_none_iff_forall_ne_some]
  exact fun node found => unknown ((graph.mem_states_iff state).mpr ⟨node,found⟩)

/-- What a transition of the graph points at has a node. -/
theorem Closed.known (closed : graph.Closed) {state target : M.State} {node : Node M} {transition : Transition M}
    (found : graph.node? state = some node) (own : transition ∈ node.transitions)
    (points : transition.target = some target) : target ∈ graph.states :=
  closed.targets node (List.mem_of_find?_eq_some found) transition own target points

end Graph

namespace Node

variable {node : Node M} {transition : Transition M}

theorem transitions_of_always (member : transition ∈ node.always) : transition ∈ node.transitions :=
  List.mem_append_left _ (List.mem_append_left _ (List.mem_append_right _ member))

/-- Whatever an event may set off is among the transitions that are checked. -/
theorem transitions_of_candidates {event : Event M} (member : transition ∈ node.candidates event) :
    transition ∈ node.transitions := by
  rw [transitions,List.mem_append,List.mem_append,List.mem_append]
  cases event with
  | init => cases member
  | signal sent =>
    refine .inl (.inl (.inl ?_))
    rw [candidates,onKind] at member
    cases found : node.on.find? fun group => group.1 = M.kind sent with
    | none => rw [found] at member; cases member
    | some group =>
      rw [found] at member
      exact List.mem_flatMap.mpr ⟨group,List.mem_of_find?_eq_some found,member⟩
  | done origin output =>
    refine .inl (.inr ?_)
    cases service : node.service with
    | none => simp [candidates,service] at member
    | some service' => exact List.mem_append_left _ (by simpa [candidates,service] using member)
  | failed origin error =>
    refine .inl (.inr ?_)
    cases service : node.service with
    | none => simp [candidates,service] at member
    | some service' => exact List.mem_append_right _ (by simpa [candidates,service] using member)
  | elapsed origin =>
    refine .inr ?_
    cases delay : node.delay with
    | none => simp [candidates,delay] at member
    | some delay' => simpa [candidates,delay] using member

end Node

namespace Graph.Closed

variable {state : M.State} {transition : Transition M}

theorem eventless (closed : graph.Closed) (member : transition ∈ graph.eventless state) :
    ∀ target, transition.target = some target → target ∈ graph.states := by
  intro target points
  rw [Graph.eventless] at member
  cases found : graph.node? state with
  | none => rw [found] at member; cases member
  | some node =>
    rw [found] at member
    exact closed.known found (Node.transitions_of_always member) points

theorem candidates (closed : graph.Closed) {event : Event M} (member : transition ∈ graph.candidates state event) :
    ∀ target, transition.target = some target → target ∈ graph.states := by
  intro target points
  rw [Graph.candidates] at member
  cases found : graph.node? state with
  | none => rw [found] at member; cases member
  | some node =>
    rw [found] at member
    exact closed.known found (Node.transitions_of_candidates member) points

end Graph.Closed

namespace Declaration

variable {declaration : Declaration M}

theorem Builds.states (builds : declaration.Builds graph) :
    graph.states = declaration.states.map StateDeclaration.state := by
  have same : List.Forall₂ (fun other node => Node.state node = StateDeclaration.state other)
      declaration.states graph.nodes := builds.nodes.imp fun _ _ describes => describes.state
  rw [Graph.states]
  generalize graph.nodes = nodes, declaration.states = states at same
  induction same with
  | nil => rfl
  | cons same _ ih => rw [List.map_cons,List.map_cons,same,ih]

theorem Builds.mem_states_iff (builds : declaration.Builds graph) (state : M.State) :
    state ∈ graph.states ↔ declaration.Declares state := by
  rw [builds.states,List.mem_map]
  rfl

/-- Every node of the graph is what one of the declarations says. -/
theorem Builds.node (builds : declaration.Builds graph) {node : Node M} (member : node ∈ graph.nodes) :
    ∃ other ∈ declaration.states, other.Describes node := by
  have nodes := builds.nodes
  generalize graph.nodes = listed, declaration.states = states at nodes member
  induction nodes with
  | nil => cases member
  | cons describes _ ih =>
    rcases List.mem_cons.mp member with rfl | later
    · exact ⟨_,List.mem_cons_self,describes⟩
    · obtain ⟨other,among,describes⟩ := ih later
      exact ⟨other,List.mem_cons_of_mem _ among,describes⟩

theorem Builds.closed (builds : declaration.Builds graph) (complete : declaration.Complete) : graph.Closed where
  initial := by
    obtain ⟨state,given,declared⟩ := complete.initial
    rw [builds.initial,Option.some.injEq] at given
    rw [builds.mem_states_iff,given]
    exact declared
  targets := by
    intro node member transition own target points
    obtain ⟨other,among,describes⟩ := builds.node member
    rw [builds.mem_states_iff]
    exact complete.targets other among transition (describes.transitions.mem_iff.mp own) target points

end Declaration

/-! ## Macrosteps inside a graph -/

/-- A step has come to a state of the graph, and all its records are of states of the graph. -/
structure Step.Within (step : Step M) (graph : Graph M) : Prop where
  state : step.state ∈ graph.states
  records : ∀ record ∈ step.records, record.source ∈ graph.states ∧ record.target ∈ graph.states

/-- What a start begins with. -/
theorem Graph.Closed.start (closed : graph.Closed) :
    Step.Within { Step.unchanged graph.initial graph.context with taken := true } graph :=
  ⟨closed.initial,nofun⟩

theorem Step.Within.unchanged {state : M.State} (known : state ∈ graph.states) (context : M.Context) :
    (Step.unchanged state context).Within graph :=
  ⟨known,nofun⟩

namespace Graph

variable {step : Step M} {state : M.State} {event : Event M} {transition : Transition M}

theorem enter_within (within : step.Within graph) {target : M.State} (known : target ∈ graph.states) :
    Faithful event (fun later => later.Within graph) (graph.enter step target event) := by
  refine (graph.enter_records step target event).mono ?_
  rintro later ⟨records,there⟩
  exact ⟨there ▸ known,records ▸ within.records⟩

theorem take_within (within : step.Within graph)
    (known : ∀ target, transition.target = some target → target ∈ graph.states) (trigger : String) :
    Faithful event (fun later => later.Within graph) (graph.take step transition event trigger) := by
  refine (graph.take_records step ⟨[],transition⟩ event trigger).mono ?_
  rintro later ⟨records,there⟩
  rw [Leg.records] at records
  rw [Leg.destination] at there
  cases points : transition.target with
  | none =>
    simp only [points,Option.toList_none,List.map_nil,List.append_nil,Option.getD_none] at records there
    exact ⟨there ▸ within.state,records ▸ within.records⟩
  | some target =>
    simp only [points,Option.toList_some,List.map_cons,List.map_nil,Option.getD_some] at records there
    refine ⟨there ▸ known target points,?_⟩
    rw [records,List.forall_mem_append,List.forall_mem_singleton]
    exact ⟨within.records,within.state,known target points⟩

theorem settle_within (closed : graph.Closed) (limit : UInt64) (event : Event M) (remaining : Nat)
    (within : step.Within graph) :
    Faithful event (fun later => later.Within graph) (graph.settle limit event remaining step) := by
  induction remaining generalizing step with
  | zero =>
    rw [settle,graph.selectAlways_eq]
    refine .lift (select_among _ _ _) ?_
    intro chosen _
    cases chosen with
    | none => exact .pure within
    | some transition => exact .throw _
  | succ remaining ih =>
    rw [settle,graph.selectAlways_eq]
    refine .lift (select_among _ _ _) ?_
    intro chosen among
    cases chosen with
    | none => exact .pure within
    | some transition =>
      have known := closed.eventless (among transition rfl)
      exact (take_within within known alwaysTrigger).bind fun _ within => ih within

theorem begin_within (closed : graph.Closed) (limit : UInt64) :
    Faithful .init (fun later => later.Within graph) (graph.begin limit) :=
  (enter_within closed.start closed.initial).bind fun _ within => settle_within closed limit .init _ within

theorem react_within (closed : graph.Closed) (known : state ∈ graph.states) (limit : UInt64) (context : M.Context)
    (event : Event M) : Faithful event (fun later => later.Within graph) (graph.react limit state context event) := by
  rw [react]
  refine .lift (select_among _ _ _) ?_
  intro chosen among
  cases chosen with
  | none => exact .pure (.unchanged known context)
  | some transition =>
    have pointed := closed.candidates (among transition rfl)
    exact (take_within (.unchanged known context) pointed _).bind fun _ within =>
      settle_within closed limit event _ within

/-- Where there is no node, nothing is left to be taken. -/
theorem settle_of_unknown (unknown : step.state ∉ graph.states) (limit : UInt64) (event : Event M) (remaining : Nat) :
    (graph.settle limit event remaining step).run = .done (.ok step) := by
  have none := graph.node?_eq_none unknown
  cases remaining <;> simp only [settle,selectAlways,none] <;> rfl

/-! ## Nodes for other states make no difference -/

theorem exitActions_eq (part : graph.PartOf other) (known : state ∈ graph.states) :
    other.exitActions state = graph.exitActions state := by
  rw [exitActions,exitActions,part.nodes state known]

theorem candidates_eq (part : graph.PartOf other) (known : state ∈ graph.states) (event : Event M) :
    other.candidates state event = graph.candidates state event := by
  rw [candidates,candidates,part.nodes state known]

theorem enter_eq (part : graph.PartOf other) (known : state ∈ graph.states) (step : Step M) (event : Event M) :
    other.enter step state event = graph.enter step state event := by
  rw [enter,enter,part.nodes state known]

theorem take_eq (part : graph.PartOf other) (within : step.Within graph)
    (known : ∀ target, transition.target = some target → target ∈ graph.states) (event : Event M) (trigger : String) :
    other.take step transition event trigger = graph.take step transition event trigger := by
  rw [take,take]
  cases points : transition.target with
  | none => rfl
  | some target =>
    rw [exitActions_eq part within.state]
    simp only [enter_eq part (known target points)]

theorem settle_eq (closed : graph.Closed) (part : graph.PartOf other) (limit : UInt64) (event : Event M)
    (remaining : Nat) (within : step.Within graph) :
    other.settle limit event remaining step = graph.settle limit event remaining step := by
  induction remaining generalizing step with
  | zero => rw [settle,settle,selectAlways,selectAlways,part.nodes step.state within.state]
  | succ remaining ih =>
    rw [settle,settle,selectAlways,part.nodes step.state within.state,← selectAlways,graph.selectAlways_eq]
    refine Faithful.bind_congr (.of_meets (select_among _ _ event)) ?_
    intro chosen among
    cases chosen with
    | none => rfl
    | some transition =>
      have known := closed.eventless (among transition rfl)
      simp only [take_eq part within known]
      exact (take_within within known alwaysTrigger).bind_congr fun _ within => ih within

/-- A start comes to the same, whatever another graph has for other states. -/
theorem begin_eq (closed : graph.Closed) (part : graph.PartOf other) (limit : UInt64) :
    other.begin limit = graph.begin limit := by
  rw [begin,begin,part.initial,part.context]
  simp only [enter_eq part closed.initial]
  exact (enter_within closed.start closed.initial).bind_congr fun _ within => settle_eq closed part limit .init _ within

/-- An event comes to the same, whatever another graph has for other states. -/
theorem react_eq (closed : graph.Closed) (part : graph.PartOf other) (known : state ∈ graph.states) (limit : UInt64)
    (context : M.Context) (event : Event M) :
    other.react limit state context event = graph.react limit state context event := by
  rw [react,react,candidates_eq part known]
  refine Faithful.bind_congr (.of_meets (select_among _ _ event)) ?_
  intro chosen among
  cases chosen with
  | none => rfl
  | some transition =>
    have start := Step.Within.unchanged known context
    have pointed := closed.candidates (among transition rfl)
    simp only [take_eq part start pointed]
    exact (take_within start pointed _).bind_congr fun _ within => settle_eq closed part limit event _ within

end Graph

/-! ## Runs inside a graph -/

/-- What has been committed is of states of the graph. -/
structure Committed.Within (committed : Committed M) (graph : Graph M) : Prop where
  state : committed.state ∈ graph.states
  history : ∀ record ∈ committed.history.records, record.source ∈ graph.states ∧ record.target ∈ graph.states

theorem Committed.Within.after {committed : Committed M} {step : Step M} (before : committed.Within graph)
    (within : step.Within graph) : (committed.after step).Within graph where
  state := within.state
  history record member := (History.mem_of_foldl member).elim (before.history record) (within.records record)

/-- An event is no outcome, or the outcome of an instance of a state of the graph. -/
def Event.Within (event : Event M) (graph : Graph M) : Prop :=
  ∀ origin, event.origin = some origin → origin.state ∈ graph.states

namespace Frame

variable {frame : Frame M} {basis : Committed M} {given : List ((query : Query M) × query.Answer)}

/-- A macrostep in progress may come by a step: some answers lead it to where it settles from there. -/
def ComesBy (frame : Frame M) (graph : Graph M) (limit : UInt64) (step : Step M) : Prop :=
  ∃ pending event given remaining, frame.pending? = some pending ∧ frame.event? = some event ∧
    pending.Leads given (graph.settle limit event remaining step).run

/-- What is left of a macrostep comes only to steps inside the graph. -/
theorem ComputedFrom.within (closed : graph.Closed) (computed : frame.ComputedFrom graph options basis given)
    (known : basis.state ∈ graph.states) {pending : Pending M} (left : frame.pending? = some pending)
    {more : List ((query : Query M) × query.Answer)} {step : Step M} (leads : pending.Leads more (.done (.ok step))) :
    step.Within graph := by
  match frame, left with
  | .starting _, rfl =>
    exact Dialogue.Meets.leads (Graph.begin_within closed _) (computed.2.trans leads) step rfl
  | .reacting _ _ event _, rfl =>
    exact Dialogue.Meets.leads (Graph.react_within closed known _ _ event) (computed.2.trans leads) step rfl

end Frame

namespace Gathering

variable {here next : Gathering M} {deed : Deed M} {trail : List (Moment M)}

theorem Run.within (closed : graph.Closed) {last : Committed M} (run : Run graph options last here) :
    last.Within graph := by
  induction run with
  | fresh => exact ⟨closed.initial,nofun⟩
  | commit run _ commits ih =>
    obtain ⟨frame,one,result⟩ := run.result commits
    obtain ⟨_,_,_,_,_,_,computed⟩ := run.computed frame (one ▸ List.mem_singleton_self frame)
    refine ih.after ?_
    rcases Frame.result?_cases result with rfl | ⟨_,_,_,rfl⟩
    · exact computed.within closed ih.state rfl (.here _)
    · exact computed.within closed ih.state rfl (.here _)
  | other _ _ _ ih => exact ih

theorem Reachable.committed_within (reachable : here.Reachable graph options) (closed : graph.Closed) :
    here.self.core.committed.Within graph := by
  obtain ⟨last,run⟩ := reachable.run
  rw [run.committed]
  exact run.within closed

/-- Whatever answers it is given, a macrostep in progress comes by states of the graph only. -/
theorem Reachable.comes_by (reachable : here.Reachable graph options) (closed : graph.Closed) {frame : Frame M}
    (member : frame ∈ here.macrosteps) {limit : UInt64} {step : Step M} (comes : frame.ComesBy graph limit step) :
    step.state ∈ graph.states := by
  obtain ⟨last,run⟩ := reachable.run
  obtain ⟨_,_,_,_,_,_,computed⟩ := run.computed frame member
  obtain ⟨pending,event,given,remaining,left,_,leads⟩ := comes
  by_contra unknown
  rw [Graph.settle_of_unknown unknown] at leads
  exact unknown (computed.within closed (run.within closed).state left leads).state

/-- An activity in progress belongs to the live instance, and so does its outcome. -/
theorem Moves.outcome_within {place : Nat} {event : Event M} (moves : here.Moves (.deliver place event) next)
    (reachable : here.Reachable graph options) (closed : graph.Closed) : event.Within graph := by
  obtain ⟨trail,run⟩ := reachable.trail
  cases moves with
  | turn turn =>
    cases turn with
    | deliver found ends =>
      intro origin carried
      rw [ends.origin,Option.some.injEq] at carried
      rw [← carried,run.tended.own _ (List.mem_of_getElem? found)]
      exact (reachable.committed_within closed).state

theorem Trail.mail_within (run : (fresh graph options).Trail trail here) (closed : graph.Closed) :
    ∀ event ∈ here.self.mailbox, event.Within graph := by
  induction run with
  | here => exact nofun
  | @onward trail deed here next run moves ih =>
    intro event member
    have leaves := moves.leaves
    generalize next.self.mailbox = mail at leaves member
    cases leaves with
    | accepted comes _ =>
      rcases List.mem_append.mp member with old | new
      · exact ih event old
      · rw [List.mem_singleton.mp new]
        rcases Moment.accepted?_cases comes with ⟨signal,_,rfl⟩ | ⟨place,deed⟩
        · exact nofun
        · cases deed
          exact moves.outcome_within run.reachable closed
    | handed _ _ mail => exact ih event (by rw [mail]; exact List.mem_cons_of_mem _ member)
    | cleared _ _ _ => cases member
    | still _ _ => exact ih event member

/-- Whatever a moment of a run has to do with is of states of the graph. The last part says that nobody ever looks
for a node that is not there: what a start or the next event comes to is the same over any graph with these nodes. -/
structure Inside (here : Gathering M) (graph : Graph M) (options : Options) : Prop where
  live : here.self.core.state ∈ graph.states
  history : ∀ record ∈ here.self.core.history.records, record.source ∈ graph.states ∧ record.target ∈ graph.states
  passed : ∀ frame ∈ here.macrosteps, ∀ step, frame.ComesBy graph options.maxMicrosteps step → step.state ∈ graph.states
  activities : ∀ activity ∈ here.self.core.activities, activity.origin.state ∈ graph.states
  outcomes : ∀ place event next, here.Moves (.deliver place event) next → event.Within graph
  mail : ∀ event ∈ here.self.mailbox, event.Within graph
  events : ∀ frame ∈ here.macrosteps, ∀ event, frame.event? = some event → event.Within graph
  elsewhere : ∀ other, graph.PartOf other → other.begin options.maxMicrosteps = graph.begin options.maxMicrosteps ∧
    ∀ event, other.react options.maxMicrosteps here.self.core.state here.self.core.context event =
      graph.react options.maxMicrosteps here.self.core.state here.self.core.context event

theorem Reachable.inside (reachable : here.Reachable graph options) (closed : graph.Closed) :
    here.Inside graph options := by
  obtain ⟨trail,run⟩ := reachable.trail
  have within := reachable.committed_within closed
  have live : here.self.core.origin.state ∈ graph.states := within.state
  refine ⟨within.state,within.history,?_,?_,?_,run.mail_within closed,?_,?_⟩
  · exact fun frame member step comes => reachable.comes_by closed member comes
  · intro activity member
    rw [run.tended.own activity member]
    exact live
  · exact fun place event next moves => moves.outcome_within reachable closed
  · intro frame member event shown origin carried
    rw [reachable.event_origin member shown carried]
    exact live
  · exact fun other part =>
      ⟨Graph.begin_eq closed part _,fun event => Graph.react_eq closed part within.state _ _ event⟩

end Gathering

/-! ## Built graphs -/

namespace Declaration

open Gathering (fresh Reachable Trail Moves)

/-- Just the complete declarations are built, each into the graph that it describes. Every state that is declared has
a node there, no other has one, and whatever a transition points at is declared. So no run ever leaves these states. -/
theorem built_graphs_closed (declaration : Declaration M) :
    ((∃ graph, declaration.build = .ok graph) ↔ declaration.Complete) ∧
    ∀ graph, declaration.build = .ok graph → declaration.Builds graph ∧ graph.Closed ∧
      (∀ state, (∃ node, graph.node? state = some node) ↔ declaration.Declares state) ∧
      ∀ options here, Reachable graph options here → here.Inside graph options := by
  refine ⟨exists_build_iff,?_⟩
  intro graph built
  have builds := declaration.builds built
  have closed := builds.closed (exists_build_iff.mp ⟨graph,built⟩)
  refine ⟨builds,closed,?_,fun options here reachable => reachable.inside closed⟩
  intro state
  rw [← graph.mem_states_iff,builds.mem_states_iff]

/-- Somebody goes on an errand, by way of a state that is left at once, and comes back after some time. -/
def errand : Declaration Bench.machine where
  id := "errand"
  initial := some .a
  context := some {}
  states := [
    ⟨.a,[.on .go ⟨none,[⟨"wait",.effect,.gate⟩],some .b⟩]⟩,
    ⟨.b,[.always ⟨none,[],some .c⟩]⟩,
    ⟨.c,[.after 5 ⟨none,[],some .a⟩,.on .back ⟨none,[],some .a⟩]⟩]

def errandGraph : Graph Bench.machine := ⟨"errand",.a,{},errand.nodes⟩

theorem errand_built : errand.build = .ok errandGraph := by
  have targets : unknownTargets errand.nodes = [] := rfl
  have none : errand.problems = [] := by
    rw [problems_eq,targets,List.mergeSort_nil]
    rfl
  rw [build,none]
  rfl

/-- Somebody waits for the errand to begin. It comes by the second state and to the third one. Once it is over and
time has passed, its outcome is in the mailbox. -/
theorem errand_runs : ∃ before after, Reachable errandGraph {} before ∧ Reachable errandGraph {} after ∧
    (∃ frame ∈ before.macrosteps, ∀ state ∈ [Bench.State.b,.c], ∃ step, step.state = state ∧
      frame.ComesBy errandGraph 32 step) ∧
    after.self.core.state = .c ∧ after.self.core.history.records.length = 2 ∧
    after.self.mailbox = [.elapsed ⟨.c,⟨2⟩⟩] := by
  have made : Trail (fresh errandGraph {}) [] _ := .here
  have started := made.onward (.turn (.start true))
  have committed := started.onward (.turn (.go rfl))
  have told := committed.onward (.turn (.go rfl))
  have drained := told.onward (.turn (.go rfl))
  have sent := drained.onward (.turn (.send (Bench.Signal.mk .go 0)))
  have taken := sent.onward (.turn (.go rfl))
  have answered := taken.onward (.turn (.answer rfl (by exact Except.ok ())))
  have arrived := answered.onward (.turn (.go rfl))
  have heard := arrived.onward (.turn (.go rfl))
  have idle := heard.onward (.turn (.go rfl))
  have asleep := idle.onward (.turn (@Turn.sleep Bench.machine _ 0 ⟨⟨.c,⟨2⟩⟩,.timer 5,.queued⟩ _ rfl (.timer _ 5 0)))
  have delivered := asleep.onward
    (.turn (@Turn.deliver Bench.machine _ 0 ⟨⟨.c,⟨2⟩⟩,.timer 5,.asleep 0⟩ _ rfl (.timer _ 5 0)))
  refine ⟨_,_,taken.reachable,delivered.reachable,⟨_,List.mem_singleton_self _,?_⟩,rfl,rfl,rfl⟩
  intro state member
  rcases List.mem_cons.mp member with rfl | later
  · refine ⟨⟨.b,{},some ⟨none,none⟩,[⟨.a,.b,"Go",()⟩],true⟩,rfl,_,_,[_],32,rfl,rfl,
      @Dialogue.Leads.answer _ _ _ _ _ (by exact Except.ok ()) _ _ (.here _)⟩
  · rw [List.mem_singleton.mp later]
    exact ⟨⟨.c,{},some ⟨none,some 5⟩,[⟨.a,.b,"Go",()⟩,⟨.b,.c,"always",()⟩],true⟩,rfl,_,_,[_],31,rfl,rfl,
      @Dialogue.Leads.answer _ _ _ _ _ (by exact Except.ok ()) _ _ (.here _)⟩

theorem errand_built_graphs_closed : errand.Complete ∧ errand.build = .ok errandGraph ∧ errand.Builds errandGraph ∧
    ∃ before after, Reachable errandGraph {} before ∧ before.Inside errandGraph {} ∧
      Reachable errandGraph {} after ∧ after.Inside errandGraph {} ∧
      (∃ frame ∈ before.macrosteps, ∀ state ∈ [Bench.State.b,.c], ∃ step, step.state = state ∧
        frame.ComesBy errandGraph 32 step) ∧
      after.self.core.state = .c ∧ after.self.core.history.records.length = 2 ∧
      after.self.mailbox = [.elapsed ⟨.c,⟨2⟩⟩] := by
  obtain ⟨complete,graphs⟩ := built_graphs_closed errand
  obtain ⟨builds,_,_,runs⟩ := graphs errandGraph errand_built
  obtain ⟨before,after,first,last,passes,state,records,mail⟩ := errand_runs
  exact ⟨complete.mp ⟨errandGraph,errand_built⟩,errand_built,builds,before,after,first,runs {} before first,last,
    runs {} after last,passes,state,records,mail⟩

end Declaration

end Statechart
