import Statechart.Proofs.Assembly
import Statechart.Proofs.Closure

/-!
# Coverage: the transitions of a node and the events that set them off

A node keeps its transitions in several places. They are read in two ways: by event, where they are selected, and all
at once, where their targets are checked. One event of each sort and a round of settling have the same transitions to
offer as the node has in all, each as often (`Node.Samples.transitions_perm`), so the check misses none and counts none
twice (`Node.transitions_cover`).
-/
namespace Statechart

variable {M : Machine}

/-- Where keys are different, an entry of a list is found by its own. -/
theorem find?_of_distinct {α κ : Type} [DecidableEq κ] {key : α → κ} {entries : List α}
    (distinct : (entries.map key).Nodup) {entry : α} (member : entry ∈ entries) :
    entries.find? (fun other => key other = key entry) = some entry := by
  induction entries with
  | nil => cases member
  | cons first rest ih =>
    obtain ⟨new,later⟩ := List.nodup_cons.mp distinct
    rcases List.mem_cons.mp member with rfl | further
    · simp
    · have different : key first ≠ key entry := fun same => new (same ▸ List.mem_map_of_mem further)
      simpa [different] using ih later further

/-! ## One event of each sort -/

namespace Node

/-- The table of a node has one group for each kind of signal. -/
def Tabled (node : Node M) : Prop := (node.on.map Prod.fst).Nodup

instance (node : Node M) : Decidable node.Tabled := inferInstanceAs (Decidable (node.on.map Prod.fst).Nodup)

/-- One event of each sort that a node tells apart: a signal for each kind in its table, and an outcome of each sort. -/
structure Samples (node : Node M) where
  signals : List M.Signal
  each : (signals.map M.kind).Perm (node.on.map Prod.fst)
  done : Origin M
  output : M.Output
  failed : Origin M
  error : M.Error
  elapsed : Origin M

namespace Samples

variable {node : Node M} (samples : node.Samples)

def events : List (Event M) :=
  samples.signals.map .signal ++
    [.done samples.done samples.output,.failed samples.failed samples.error,.elapsed samples.elapsed]

/-- All that the events and a round of settling may select. -/
def offered : List (Transition M) := samples.events.flatMap node.candidates ++ node.always

end Samples

/-! ## Two ways to read a node -/

variable {node : Node M}

/-- Kind by kind, the table is read from its beginning to its end. -/
theorem Tabled.flatMap_onKind (tabled : node.Tabled) :
    (node.on.map Prod.fst).flatMap node.onKind = node.on.flatMap Prod.snd := by
  rw [List.flatMap_map]
  apply List.flatMap_congr
  intro group member
  rw [onKind,find?_of_distinct tabled member]

/-- What signals of each kind set off is all that is in the table. -/
theorem Samples.signals_perm (samples : node.Samples) (tabled : node.Tabled) :
    ((samples.signals.map .signal).flatMap node.candidates).Perm (node.on.flatMap Prod.snd) := by
  have read : (samples.signals.map .signal).flatMap node.candidates =
      (samples.signals.map M.kind).flatMap node.onKind := by
    rw [List.flatMap_map,List.flatMap_map]
    rfl
  rw [read,← tabled.flatMap_onKind]
  exact samples.each.flatMap_right _

theorem transitions_eq (node : Node M) (samples : node.Samples) :
    node.transitions = node.on.flatMap Prod.snd ++ node.always ++
      (node.candidates (.done samples.done samples.output) ++ (node.candidates (.failed samples.failed samples.error) ++
        node.candidates (.elapsed samples.elapsed))) := by
  rw [transitions,candidates,candidates,candidates]
  cases node.service <;> cases node.delay <;> simp

/-- One event of each sort and a round of settling have all transitions of the node to offer, each as often as it is
there. -/
theorem Samples.transitions_perm (samples : node.Samples) (tabled : node.Tabled) :
    node.transitions.Perm samples.offered := by
  rw [transitions_eq node samples,offered,events,List.flatMap_append,List.append_assoc,List.append_assoc]
  refine (samples.signals_perm tabled).symm.append (List.perm_append_comm.trans (.of_eq ?_))
  simp

/-! ## Tables as they are declared -/

theorem fst_addOn (kind : M.Kind) (transition : Transition M) (groups : List (M.Kind × List (Transition M))) :
    (addOn kind transition groups).map Prod.fst =
      if kind ∈ groups.map Prod.fst then groups.map Prod.fst else groups.map Prod.fst ++ [kind] := by
  induction groups with
  | nil => rfl
  | cons group rest ih =>
    rw [addOn]
    by_cases here : group.1 = kind
    · simp [here]
    · rw [if_neg here,List.map_cons,ih]
      by_cases later : kind ∈ rest.map Prod.fst <;> simp [later,Ne.symm here]

theorem tabled_addOn (kind : M.Kind) (transition : Transition M) {groups : List (M.Kind × List (Transition M))}
    (tabled : (groups.map Prod.fst).Nodup) : ((addOn kind transition groups).map Prod.fst).Nodup := by
  rw [fst_addOn]
  split
  · exact tabled
  · rename_i new
    rw [← List.concat_eq_append]
    exact tabled.concat new

theorem tabled_foldl (entries : List (M.Kind × Transition M)) {groups : List (M.Kind × List (Transition M))}
    (tabled : (groups.map Prod.fst).Nodup) :
    ((entries.foldl (fun groups entry => addOn entry.1 entry.2 groups) groups).map Prod.fst).Nodup := by
  induction entries generalizing groups with
  | nil => exact tabled
  | cons entry rest ih => exact ih (tabled_addOn entry.1 entry.2 tabled)

end Node

/-- Whatever is declared of a state, its table has one group for each kind. -/
theorem StateDeclaration.finish_tabled (declaration : StateDeclaration M) : declaration.finish.1.Tabled := by
  rw [Node.Tabled,finish_node]
  exact Node.tabled_foldl _ List.nodup_nil

/-! ## Selection -/

/-- Answers that end a dialogue, and then answers to its sequel, are answers to both together. -/
theorem Dialogue.Leads.then {Q : Type} {A : Q → Type} {α β : Type} {dialogue : Dialogue Q A α}
    {sequel : α → Dialogue Q A β} {result : α} {rest : Dialogue Q A β} {before after : List (Sigma A)}
    (ends : dialogue.Leads before (.done result)) (further : (sequel result).Leads after rest) :
    (dialogue >>= sequel).Leads (before ++ after) rest := by
  generalize reached : Dialogue.done result = last at ends
  induction ends with
  | here => subst reached; exact further
  | answer _ ih => exact .answer (ih reached)

/-- Once those before it in a list have been refused, a transition that passes is selected. -/
def Transition.StandsIn (transition : Transition M) (candidates : List (Transition M)) (event : Event M) : Prop :=
  ∃ before after, candidates = before ++ transition :: after ∧ ∀ context asked answered,
    (select before context event).Leads asked (.done none) →
    (transition.isEnabled context event).Leads answered (.done true) →
      (select candidates context event).Leads (asked ++ answered) (.done (some transition))

section
variable {context : M.Context} {event : Event M} {transition : Transition M} {candidates : List (Transition M)}

theorem select_of_refused {before : List (Transition M)} {asked answered : List ((query : Query M) × query.Answer)}
    (refused : (select before context event).Leads asked (.done none))
    (passes : (transition.isEnabled context event).Leads answered (.done true)) (after : List (Transition M)) :
    (select (before ++ transition :: after) context event).Leads (asked ++ answered) (.done (some transition)) := by
  induction before generalizing asked with
  | nil =>
    cases refused
    rw [List.nil_append,List.nil_append,← List.append_nil answered]
    exact passes.then (.here _)
  | cons first rest ih =>
    obtain ⟨verdict,looked,later,rfl,looks,further⟩ := refused.ends_of_bind
    cases verdict with
    | true => cases further
    | false =>
      rw [List.append_assoc]
      exact looks.then (ih further)

theorem Transition.standsIn_of_mem (member : transition ∈ candidates) (event : Event M) :
    transition.StandsIn candidates event := by
  obtain ⟨before,after,rfl⟩ := List.append_of_mem member
  exact ⟨before,after,rfl,fun _ _ _ refused passes => select_of_refused refused passes after⟩

theorem mem_of_select {given : List ((query : Query M) × query.Answer)}
    (selects : (select candidates context event).Leads given (.done (some transition))) : transition ∈ candidates := by
  obtain ⟨leg,rfl,chosen⟩ := Leg.exists_chosen selects
  obtain ⟨later,split⟩ := chosen.split
  rw [split]
  exact List.mem_append_right _ List.mem_cons_self

end

/-- What a state has to select from when it settles are the eventless transitions of its node. -/
theorem Graph.mem_of_selectAlways {graph : Graph M} {node : Node M} {step : Step M} {event : Event M}
    {given : List ((query : Query M) × query.Answer)} {transition : Transition M}
    (found : graph.node? step.state = some node)
    (selects : (graph.selectAlways step event).Leads given (.done (some transition))) : transition ∈ node.always := by
  rw [selectAlways,found] at selects
  exact mem_of_select selects

theorem Graph.mem_of_select_candidates {graph : Graph M} {node : Node M} {state : M.State} {context : M.Context}
    {event : Event M} {given : List ((query : Query M) × query.Answer)} {transition : Transition M}
    (found : graph.node? state = some node)
    (selects : (select (graph.candidates state event) context event).Leads given (.done (some transition))) :
    transition ∈ node.candidates event := by
  rw [candidates,found] at selects
  exact mem_of_select selects

namespace Node

/-- Whatever a node has can be selected, for one of the events or while it settles. -/
theorem Samples.standsIn {node : Node M} (samples : node.Samples) (tabled : node.Tabled) {transition : Transition M}
    (member : transition ∈ node.transitions) :
    (∃ event ∈ samples.events, transition.StandsIn (node.candidates event) event) ∨
      ∀ event, transition.StandsIn node.always event := by
  have offered := (samples.transitions_perm tabled).mem_iff.mp member
  rcases List.mem_append.mp offered with candidate | eventless
  · obtain ⟨event,among,own⟩ := List.mem_flatMap.mp candidate
    exact .inl ⟨event,among,Transition.standsIn_of_mem own event⟩
  · exact .inr (Transition.standsIn_of_mem eventless)

/-- In a chart with one node for each state, an undeclared target is reported of a state as often as the transitions
that its node has to offer point at it. -/
theorem Samples.count_unknownTargets {nodes : List (Node M)} (once : (nodes.map Node.state).Nodup) {node : Node M}
    (member : node ∈ nodes) (tabled : node.Tabled) (samples : node.Samples) (target : M.State) :
    (unknownTargets nodes).count (.unknownTarget node.state target) =
      if nodes.any fun other => other.state = target then 0
      else samples.offered.countP fun transition => transition.target = some target := by
  rw [Statechart.count_unknownTargets once,find?_of_distinct once member,Option.map_some,Option.getD_some,
    (samples.transitions_perm tabled).countP_eq]

/-- The transitions of a node are those that it has to offer for a signal of each kind in its table, for an outcome of
each sort and for a round of settling, each as often as it is offered. What an event or a round of settling selects is
one of them, and each of them is selected once those before it have been refused and it passes. So the check of targets
counts each of them once, and nothing else. -/
theorem transitions_cover (M : Machine) :
    (∀ declaration : StateDeclaration M, declaration.finish.1.Tabled) ∧
    (∀ (node : Node M) (samples : node.Samples), node.Tabled → node.transitions.Perm samples.offered) ∧
    (∀ (graph : Graph M) (state : M.State) (node : Node M) (event : Event M) (transition : Transition M)
      (given : List ((query : Query M) × query.Answer)), graph.node? state = some node →
      (∀ context, (select (graph.candidates state event) context event).Leads given (.done (some transition)) →
        transition ∈ node.transitions) ∧
      ∀ step : Step M, step.state = state → (graph.selectAlways step event).Leads given (.done (some transition)) →
        transition ∈ node.transitions) ∧
    (∀ (node : Node M) (samples : node.Samples), node.Tabled → ∀ transition ∈ node.transitions,
      (∃ event ∈ samples.events, transition.StandsIn (node.candidates event) event) ∨
        ∀ event, transition.StandsIn node.always event) ∧
    ∀ nodes : List (Node M), (nodes.map Node.state).Nodup → ∀ node ∈ nodes, node.Tabled →
      ∀ (samples : node.Samples) (target : M.State), (unknownTargets nodes).count (.unknownTarget node.state target) =
        if nodes.any fun other => other.state = target then 0
        else samples.offered.countP fun transition => transition.target = some target := by
  refine ⟨StateDeclaration.finish_tabled,fun _ samples => samples.transitions_perm,?_,
    fun _ samples tabled _ => samples.standsIn tabled,
    fun _ once _ member tabled samples => samples.count_unknownTargets once member tabled⟩
  intro graph state node event transition given found
  constructor
  · intro context selects
    exact transitions_of_candidates (Graph.mem_of_select_candidates found selects)
  · rintro step rfl selects
    exact transitions_of_always (Graph.mem_of_selectAlways found selects)

/-- A state that leads to a final one by a signal, when its service is done and when its delay is over. -/
def crossing : Node Bench.machine where
  state := .a
  entry := []
  exit := []
  on := [(.go,[⟨none,[],some .b⟩]),(.tick,[⟨some ⟨.constant false,false⟩,[],some .b⟩,⟨none,[],some .x⟩])]
  always := [⟨some ⟨.constant false,false⟩,[],some .b⟩]
  service := some ⟨"probe",⟨"probe",none,none,none,none⟩,[⟨none,[],some .x⟩],[⟨none,[],none⟩]⟩
  delay := some ⟨5,[⟨none,[],some .x⟩]⟩

def crossingSamples : crossing.Samples where
  signals := [⟨.tick,0⟩,⟨.go,1⟩]
  each := .swap _ _ _
  done := ⟨.a,⟨1⟩⟩
  output := 7
  failed := ⟨.b,⟨2⟩⟩
  error := "lost"
  elapsed := ⟨.a,⟨0⟩⟩

/-- The final state is not declared. -/
def crossroads : Graph Bench.machine := ⟨"crossroads",.a,{},[crossing,.empty .b]⟩

theorem crossing_transitions_cover :
    crossing.transitions.Perm crossingSamples.offered ∧
    (⟨some ⟨.constant false,false⟩,[],some .b⟩ : Transition Bench.machine) ∈ crossing.transitions ∧
    (unknownTargets crossroads.nodes).count (.unknownTarget crossing.state .x) = 3 := by
  have tabled : crossing.Tabled := by decide
  have once : (crossroads.nodes.map Node.state).Nodup := by decide
  have found : crossroads.node? .a = some crossing := rfl
  have selects : (crossroads.selectAlways (.unchanged .a {}) .init).Leads
      [⟨.check ⟨.constant false,false⟩ {} .init,true⟩] (.done (some ⟨some ⟨.constant false,false⟩,[],some .b⟩)) :=
    .answer (.here _)
  obtain ⟨_,covers,seen,_,counts⟩ := transitions_cover Bench.machine
  refine ⟨covers crossing crossingSamples tabled,(seen _ _ _ _ _ _ found).2 _ rfl selects,?_⟩
  rw [counts _ once crossing List.mem_cons_self tabled crossingSamples .x]
  rfl

end Node

end Statechart
