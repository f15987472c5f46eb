import Statechart.Proofs.Problems

/-!
# Building: complete declarations and the graphs that come of them

A chart is built just if its declaration is complete: nothing is missing, nothing is given twice, and whatever
state a transition points at is declared (`exists_build_iff`). Of a complete declaration nothing is refused, so the
graph has one node for each state that is declared, and each node has all that its declaration says
(`builds`).
-/
namespace Statechart

variable {M : Machine}

/-! ## What single clauses add -/

namespace Clause

def entry? : Clause M → Option (Action M)
  | .entry action => some action
  | _ => none

def exit? : Clause M → Option (Action M)
  | .exit action => some action
  | _ => none

/-- A transition that is given for one kind of signal. -/
def onKind? (kind : M.Kind) : Clause M → Option (Transition M)
  | .on other transition => if other = kind then some transition else none
  | _ => none

end Clause

namespace Node

/-- What clauses add to one part of a node adds up, if a clause that is refused adds nothing. -/
theorem declareAll_collects {α : Type} (part : Node M → List α) {adds : Clause M → Option α}
    (accepted : ∀ node clause next, declare node clause = .ok next → part next = part node ++ (adds clause).toList)
    (refused : ∀ node clause problem, declare node clause = .error problem → adds clause = none)
    (node : Node M) (clauses : List (Clause M)) :
    part (node.declareAll clauses).1 = part node ++ clauses.filterMap adds := by
  induction clauses generalizing node with
  | nil => exact (List.append_nil _).symm
  | cons clause rest ih =>
    rw [declareAll]
    cases result : node.declare clause with
    | ok next =>
      rw [ih next,accepted node clause next result,List.filterMap_cons]
      cases adds clause <;> simp
    | error problem =>
      rw [List.filterMap_cons,refused node clause problem result]
      exact ih node

/-- Only further services and other delays are refused. -/
theorem refused_cases {node : Node M} {clause : Clause M} {problem : Problem M.State}
    (refused : node.declare clause = .error problem) :
    (∃ service, clause = .invoke service) ∨ ∃ span transition, clause = .after span transition := by
  cases clause with
  | invoke service => exact .inl ⟨service,rfl⟩
  | after span transition => exact .inr ⟨span,transition,rfl⟩
  | _ => cases refused

/-- What an accepted clause does to the lists of a node. -/
theorem declare_lists {node next : Node M} {clause : Clause M} (accepted : node.declare clause = .ok next) :
    next.entry = node.entry ++ clause.entry?.toList ∧ next.exit = node.exit ++ clause.exit?.toList ∧
      next.on = match clause with
        | .on kind transition => addOn kind transition node.on
        | _ => node.on := by
  cases clause with
  | invoke service =>
    rw [declare] at accepted
    split at accepted
    · cases accepted; simp [Clause.entry?,Clause.exit?]
    · cases accepted
  | after span transition =>
    rw [declare] at accepted
    split at accepted
    · cases accepted; simp [Clause.entry?,Clause.exit?]
    · split at accepted
      · cases accepted; simp [Clause.entry?,Clause.exit?]
      · cases accepted
  | _ => cases accepted; simp [Clause.entry?,Clause.exit?]

theorem onKind_eq (node : Node M) (kind : M.Kind) :
    node.onKind kind = ((node.on.find? fun group => group.1 = kind).map Prod.snd).getD [] := by
  rw [onKind]
  cases node.on.find? fun group => group.1 = kind <;> rfl

theorem find?_addOn (kind other : M.Kind) (transition : Transition M) (groups : List (M.Kind × List (Transition M))) :
    (((addOn kind transition groups).find? fun group => group.1 = other).map Prod.snd).getD [] =
      ((groups.find? fun group => group.1 = other).map Prod.snd).getD [] ++
        if kind = other then [transition] else [] := by
  induction groups with
  | nil => by_cases same : kind = other <;> simp [addOn,same]
  | cons group rest ih =>
    rw [addOn]
    by_cases here : group.1 = kind
    · by_cases same : kind = other <;> simp [here,same]
    · rw [if_neg here]
      by_cases found : group.1 = other
      · have different : kind ≠ other := fun same => here (found.trans same.symm)
        simp [found,different]
      · simp only [List.find?_cons,found,decide_false,ih]

theorem declareAll_entry (node : Node M) (clauses : List (Clause M)) :
    (node.declareAll clauses).1.entry = node.entry ++ clauses.filterMap Clause.entry? := by
  refine declareAll_collects Node.entry (fun _ _ _ accepted => (declare_lists accepted).1) ?_ node clauses
  intro node clause problem refused
  rcases refused_cases refused with ⟨_,rfl⟩ | ⟨_,_,rfl⟩ <;> rfl

theorem declareAll_exit (node : Node M) (clauses : List (Clause M)) :
    (node.declareAll clauses).1.exit = node.exit ++ clauses.filterMap Clause.exit? := by
  refine declareAll_collects Node.exit (fun _ _ _ accepted => (declare_lists accepted).2.1) ?_ node clauses
  intro node clause problem refused
  rcases refused_cases refused with ⟨_,rfl⟩ | ⟨_,_,rfl⟩ <;> rfl

/-- The transitions of a kind are in the order in which they were given. -/
theorem declareAll_onKind (node : Node M) (clauses : List (Clause M)) (kind : M.Kind) :
    (node.declareAll clauses).1.onKind kind = node.onKind kind ++ clauses.filterMap (Clause.onKind? kind) := by
  refine declareAll_collects (fun node => node.onKind kind) ?_ ?_ node clauses
  · intro node clause next accepted
    have lists := (declare_lists accepted).2.2
    cases clause with
    | on other transition =>
      rw [onKind_eq,onKind_eq,lists,find?_addOn,Clause.onKind?]
      split <;> rfl
    | _ => rw [onKind_eq,onKind_eq,lists]; exact (List.append_nil _).symm
  · intro node clause problem refused
    rcases refused_cases refused with ⟨_,rfl⟩ | ⟨_,_,rfl⟩ <;> rfl

end Node

/-! ## The node of a declaration of which nothing is refused -/

namespace StateDeclaration

variable {declaration : StateDeclaration M}

/-- A declaration has one service and one delay at most. -/
structure Single (declaration : StateDeclaration M) : Prop where
  service : declaration.services.length ≤ 1
  delay : ∀ left ∈ declaration.delayed, ∀ right ∈ declaration.delayed, left.1 = right.1

theorem Single.span (single : declaration.Single) :
    ∀ entry ∈ declaration.delayed, some entry.1 = declaration.span? := by
  intro entry member
  rw [span?]
  cases delayed : declaration.delayed with
  | nil => rw [delayed] at member; cases member
  | cons first rest =>
    exact congrArg some (single.delay entry member first (by rw [delayed]; exact List.mem_cons_self))

/-- Nothing is refused of such a declaration, and of no other. -/
theorem single_iff : declaration.Single ↔ declaration.extraServices = 0 ∧ declaration.otherDelays = 0 := by
  rw [extraServices,otherDelays,List.countP_eq_zero]
  constructor
  · intro single
    refine ⟨Nat.sub_eq_zero_of_le single.service,?_⟩
    intro entry member
    simpa using single.span entry member
  · rintro ⟨one,same⟩
    refine ⟨by omega,?_⟩
    intro left first right second
    have left := same left first
    have right := same right second
    simp only [ne_eq,decide_eq_true_eq,not_not] at left right
    exact Option.some.inj (left.trans right.symm)

/-- What clauses give, sorted by what sets it off. -/
theorem given_perm (clauses : List (Clause M)) : (clauses.flatMap Clause.transitions).Perm
    (clauses.filterMap Clause.onSignal? ++ clauses.filterMap Clause.always? ++
      ((clauses.filterMap Clause.service?).flatMap fun service => service.onDone ++ service.onError) ++
      (clauses.filterMap Clause.delayed?).map Prod.snd) := by
  let := Classical.decEq (Transition M)
  rw [List.perm_iff_count]
  intro transition
  induction clauses with
  | nil => rfl
  | cons clause rest ih =>
    simp only [List.count_append] at ih
    cases clause <;>
      simp only [List.flatMap_cons,List.filterMap_cons,Clause.transitions,Clause.onSignal?,Clause.always?,
        Clause.service?,Clause.delayed?,List.map_cons,List.count_append,List.cons_append,List.count_cons,List.nil_append,ih] <;>
      omega

/-- If nothing is refused, all transitions that are given count. -/
theorem Single.kept_perm (single : declaration.Single) : declaration.kept.Perm declaration.given := by
  have services : declaration.services.head?.toList = declaration.services := by
    have one := single.service
    match declaration.services, one with
    | [], _ => rfl
    | [_], _ => rfl
  have delayed : (declaration.delayed.filter fun entry => some entry.1 = declaration.span?) = declaration.delayed := by
    rw [List.filter_eq_self]
    intro entry member
    exact decide_eq_true (single.span entry member)
  rw [kept,services,delayed]
  exact (given_perm declaration.clauses).symm

/-- A node has what its declaration says, all of it and nothing else. -/
structure Describes (declaration : StateDeclaration M) (node : Node M) : Prop where
  state : node.state = declaration.state
  entry : node.entry = declaration.clauses.filterMap Clause.entry?
  exit : node.exit = declaration.clauses.filterMap Clause.exit?
  on : ∀ kind, node.onKind kind = declaration.clauses.filterMap (Clause.onKind? kind)
  always : node.always = declaration.clauses.filterMap Clause.always?
  service : node.service.toList = declaration.services
  delay : node.delay = declaration.span?.map fun span => ⟨span,declaration.delayed.map Prod.snd⟩
  transitions : node.transitions.Perm declaration.given

theorem Single.describes (single : declaration.Single) : declaration.Describes declaration.finish.1 where
  state := declaration.finish_state
  entry := Node.declareAll_entry _ _
  exit := Node.declareAll_exit _ _
  on := Node.declareAll_onKind _ _
  always := declaration.amounts.always
  service := by
    have first : declaration.finish.1.service = declaration.services.head? := declaration.amounts.service
    have one := single.service
    rw [first]
    match declaration.services, one with
    | [], _ => rfl
    | [_], _ => rfl
  delay := by
    have delay : declaration.finish.1.delay = declaration.span?.map fun span =>
      ⟨span,(declaration.delayed.filter fun entry => entry.1 = span).map Prod.snd⟩ := declaration.amounts.delay
    rw [delay]
    cases first : declaration.span? with
    | none => rfl
    | some span =>
      have all : (declaration.delayed.filter fun entry => entry.1 = span) = declaration.delayed := by
        rw [List.filter_eq_self]
        intro entry member
        exact decide_eq_true (Option.some.inj ((single.span entry member).trans first))
      rw [Option.map_some,Option.map_some,all]
  transitions := declaration.finish_transitions.trans single.kept_perm

end StateDeclaration

/-! ## The nodes of a chart in which no state is declared again -/

theorem insertNode_of_new {node : Node M} {nodes : List (Node M)} (new : node.state ∉ nodes.map Node.state) :
    insertNode node nodes = nodes ++ [node] := by
  induction nodes with
  | nil => rfl
  | cons other rest ih =>
    rw [List.map_cons,List.mem_cons,not_or] at new
    rw [insertNode,if_neg (Ne.symm new.1),ih new.2]
    rfl

theorem collectNodes_of_once {states : List (StateDeclaration M)} (nodes : List (Node M))
    (once : (nodes.map Node.state ++ states.map StateDeclaration.state).Nodup) :
    (collectNodes states nodes).1 = nodes ++ states.map fun declaration => declaration.finish.1 := by
  induction states generalizing nodes with
  | nil => exact (List.append_nil _).symm
  | cons declaration rest ih =>
    have new : declaration.finish.1.state ∉ nodes.map Node.state := by
      rw [declaration.finish_state]
      intro member
      exact (List.disjoint_of_nodup_append once) member (by simp)
    have later := ih (nodes ++ [declaration.finish.1]) (by simpa [declaration.finish_state] using once)
    rw [collectNodes]
    simp only [insertNode_of_new new]
    rw [later,List.append_assoc]
    rfl

namespace Declaration

variable {declaration : Declaration M} {graph : Graph M}

/-! ## Complete declarations -/

/-- Nothing is missing, nothing is given twice, and all that is pointed at is declared. -/
structure Complete (declaration : Declaration M) : Prop where
  initial : ∃ state, declaration.initial = some state ∧ declaration.Declares state
  context : declaration.context.isSome
  some : declaration.states ≠ []
  once : (declaration.states.map StateDeclaration.state).Nodup
  services : ∀ other ∈ declaration.states, other.services.length ≤ 1
  delays : ∀ other ∈ declaration.states, ∀ left ∈ other.delayed, ∀ right ∈ other.delayed, left.1 = right.1
  targets : ∀ other ∈ declaration.states, ∀ transition ∈ other.given, ∀ target, transition.target = .some target →
    declaration.Declares target

theorem Complete.single (complete : declaration.Complete) {other : StateDeclaration M}
    (member : other ∈ declaration.states) : other.Single :=
  ⟨complete.services other member,complete.delays other member⟩

/-- No state is declared again just if every state has one declaration at most. -/
theorem nodup_iff (declaration : Declaration M) : (declaration.states.map StateDeclaration.state).Nodup ↔
    ∀ state, (declaration.of state).length ≤ 1 := by
  rw [List.nodup_iff_count_le_one]
  refine forall_congr' fun state => ?_
  rw [of,← List.countP_eq_length_filter,List.count,List.countP_map]
  rfl

/-- Where every state has one declaration at most, that is the last one. -/
theorem kept_of_once (once : (declaration.states.map StateDeclaration.state).Nodup) {other : StateDeclaration M}
    (member : other ∈ declaration.states) : declaration.kept other.state = other.kept := by
  have one := declaration.nodup_iff.mp once other.state
  have listed : other ∈ declaration.of other.state := List.mem_filter.mpr ⟨member,decide_eq_true rfl⟩
  rw [kept]
  cases only : declaration.of other.state with
  | nil => rw [only] at listed; cases listed
  | cons single rest =>
    rw [only,List.length_cons] at one
    have alone : rest = [] := List.length_eq_zero_iff.mp (by omega)
    rw [only,alone,List.mem_singleton] at listed
    simp [alone,listed]

theorem problems_eq_nil_iff : declaration.problems = [] ↔ declaration.Complete := by
  have reports := declaration.problems_reports
  constructor
  · intro none
    rw [none] at reports
    have initial := reports.missingInitialState
    have unknown := reports.unknownInitialState
    have context := reports.missingContext
    have states := reports.noStates
    have services := reports.multipleServices
    have delays := reports.multipleDelays
    have duplicates := reports.duplicateState
    have targets := reports.unknownTarget
    have some : declaration.states ≠ [] := by
      intro empty
      rw [empty] at states
      cases states
    have once : (declaration.states.map StateDeclaration.state).Nodup := by
      refine declaration.nodup_iff.mpr fun state => ?_
      have count := duplicates state
      simp only [List.count_nil] at count
      omega
    have single : ∀ other ∈ declaration.states, other.Single := by
      intro other member
      have listed : other ∈ declaration.of other.state := List.mem_filter.mpr ⟨member,decide_eq_true rfl⟩
      have service := (services other.state).symm
      have delay := (delays other.state).symm
      rw [List.count_nil,List.sum_eq_zero_iff_forall_eq_nat] at service delay
      exact StateDeclaration.single_iff.mpr
        ⟨service _ (List.mem_map_of_mem listed),delay _ (List.mem_map_of_mem listed)⟩
    refine ⟨?_,?_,some,once,fun other member => (single other member).service,
      fun other member => (single other member).delay,?_⟩
    · cases given : declaration.initial with
      | none => rw [given] at initial; cases initial
      | some state =>
        refine ⟨state,rfl,?_⟩
        by_contra undeclared
        have count := unknown state
        rw [if_pos ⟨given,some,undeclared⟩] at count
        cases count
    · cases given : declaration.context with
      | none => rw [given] at context; cases context
      | some _ => rfl
    · intro other member transition given target points
      by_contra undeclared
      have kept : transition ∈ declaration.kept other.state := by
        rw [kept_of_once once member]
        exact (single other member).kept_perm.mem_iff.mpr given
      exact List.not_mem_nil ((targets other.state target).mpr ⟨undeclared,transition,kept,points⟩)
  · intro complete
    obtain ⟨state,given,declared⟩ := complete.initial
    rw [List.eq_nil_iff_forall_not_mem]
    intro problem member
    have count := List.count_pos_iff.mpr member
    cases problem with
    | missingInitialState => simp [reports.missingInitialState,given] at count
    | missingContext => simp [reports.missingContext,Option.isSome_iff_ne_none.mp complete.context] at count
    | noStates => simp [reports.noStates,complete.some] at count
    | unknownInitialState other =>
      rw [reports.unknownInitialState,if_neg] at count
      · cases count
      · rintro ⟨same,_,undeclared⟩
        exact undeclared (Option.some.inj (given.symm.trans same) ▸ declared)
    | duplicateState other =>
      have one := declaration.nodup_iff.mp complete.once other
      rw [reports.duplicateState] at count
      omega
    | unknownTarget source target =>
      obtain ⟨undeclared,transition,kept,points⟩ := (reports.unknownTarget source target).mp member
      obtain ⟨last,final,own⟩ := List.mem_flatMap.mp kept
      have among := List.mem_of_mem_filter (List.mem_of_getLast? (Option.mem_toList.mp final))
      exact undeclared (complete.targets last among transition (last.given_of_kept own) target points)
    | multipleServices other =>
      rw [reports.multipleServices,List.sum_eq_zero_iff_forall_eq_nat.mpr] at count
      · cases count
      · intro weight weighs
        obtain ⟨each,listed,rfl⟩ := List.mem_map.mp weighs
        exact (StateDeclaration.single_iff.mp (complete.single (List.mem_of_mem_filter listed))).1
    | multipleDelays other =>
      rw [reports.multipleDelays,List.sum_eq_zero_iff_forall_eq_nat.mpr] at count
      · cases count
      · intro weight weighs
        obtain ⟨each,listed,rfl⟩ := List.mem_map.mp weighs
        exact (StateDeclaration.single_iff.mp (complete.single (List.mem_of_mem_filter listed))).2

/-- A complete declaration is built, and no other. -/
theorem exists_build_iff : (∃ graph, declaration.build = .ok graph) ↔ declaration.Complete := by
  rw [← problems_eq_nil_iff]
  constructor
  · rintro ⟨graph,built⟩
    by_contra some
    rw [build_eq_error_iff.mpr ⟨rfl,some⟩] at built
    cases built
  · intro none
    cases built : declaration.build with
    | ok graph => exact ⟨graph,rfl⟩
    | error reported =>
      obtain ⟨rfl,some⟩ := build_eq_error_iff.mp built
      exact absurd none some

/-! ## What is built -/

/-- A graph is what a declaration says: what it begins with, and one node for each state that is declared. -/
structure Builds (declaration : Declaration M) (graph : Graph M) : Prop where
  id : graph.id = declaration.id
  initial : declaration.initial = some graph.initial
  context : declaration.context = some graph.context
  nodes : List.Forall₂ StateDeclaration.Describes declaration.states graph.nodes

theorem build_eq_ok (built : declaration.build = .ok graph) : declaration.initial = some graph.initial ∧
    declaration.context = some graph.context ∧ graph.id = declaration.id ∧ graph.nodes = declaration.nodes := by
  rw [build] at built
  split at built
  · rename_i _ given shown
    cases built
    exact ⟨given,shown,rfl,rfl⟩
  · cases built

theorem builds (built : declaration.build = .ok graph) : declaration.Builds graph := by
  have complete := exists_build_iff.mp ⟨graph,built⟩
  obtain ⟨initial,context,id,nodes⟩ := build_eq_ok built
  refine ⟨id,initial,context,?_⟩
  rw [nodes,Declaration.nodes,collectNodes_of_once [] complete.once,List.nil_append,List.forall₂_map_right_iff,
    List.forall₂_same]
  exact fun other member => (complete.single member).describes

end Declaration

end Statechart
