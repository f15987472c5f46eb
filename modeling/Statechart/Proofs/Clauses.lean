import Mathlib.Data.List.Perm.Basic
import Statechart.Declaration

/-!
# Clauses: what the declaration of a state amounts to

Clauses are applied one after another, and some of them are refused: the service of a state is that of the first
clause with one, and its delay is that of the first clause with one, which others may share (`amounts`). Every
clause that is refused makes a problem, and no other does.
-/
namespace Statechart

variable {M : Machine}

/-! ## What clauses say -/

namespace Clause

/-- The transitions that a clause gives. -/
def transitions : Clause M → List (Transition M)
  | .on _ transition => [transition]
  | .always transition => [transition]
  | .invoke service => service.onDone ++ service.onError
  | .after _ transition => [transition]
  | _ => []

def onSignal? : Clause M → Option (Transition M)
  | .on _ transition => some transition
  | _ => none

def always? : Clause M → Option (Transition M)
  | .always transition => some transition
  | _ => none

def service? : Clause M → Option (Service M)
  | .invoke service => some service
  | _ => none

/-- A delayed transition with its span. -/
def delayed? : Clause M → Option (Nat × Transition M)
  | .after span transition => some (span,transition)
  | _ => none

end Clause

namespace Node

/-- The span that the delay of a node has or is going to have. -/
def span? (node : Node M) (clauses : List (Clause M)) : Option Nat :=
  (node.delay.map Delay.span).or ((clauses.filterMap Clause.delayed?).head?.map Prod.fst)

/-- What clauses make of a node, and which problems they meet. -/
structure Amounts (node : Node M) (clauses : List (Clause M)) (last : Node M) (problems : List (Problem M.State)) : Prop where
  state : last.state = node.state
  on : (last.on.flatMap Prod.snd).Perm (node.on.flatMap Prod.snd ++ clauses.filterMap Clause.onSignal?)
  always : last.always = node.always ++ clauses.filterMap Clause.always?
  service : last.service = (node.service.toList ++ clauses.filterMap Clause.service?).head?
  delay : last.delay = (node.span? clauses).map fun span => ⟨span,(node.delay.map Delay.transitions).getD [] ++
    ((clauses.filterMap Clause.delayed?).filter fun entry => entry.1 = span).map Prod.snd⟩
  services : problems.count (.multipleServices node.state) =
    (node.service.toList ++ clauses.filterMap Clause.service?).length - 1
  delays : problems.count (.multipleDelays node.state) =
    (clauses.filterMap Clause.delayed?).countP fun entry => some entry.1 ≠ node.span? clauses
  own : ∀ problem ∈ problems, problem = .multipleServices node.state ∨ problem = .multipleDelays node.state

theorem addOn_perm (kind : M.Kind) (transition : Transition M) (groups : List (M.Kind × List (Transition M))) :
    ((addOn kind transition groups).flatMap Prod.snd).Perm (groups.flatMap Prod.snd ++ [transition]) := by
  induction groups with
  | nil => exact .refl _
  | cons group rest ih =>
    rw [addOn]
    split
    · simp only [List.flatMap_cons,List.append_assoc]
      exact List.perm_append_comm.append_left _
    · simp only [List.flatMap_cons,List.append_assoc]
      exact ih.append_left _

theorem amounts_nil (node : Node M) : node.Amounts [] node [] where
  state := rfl
  on := by simp
  always := by simp
  service := by cases node.service <;> rfl
  delay := by cases held : node.delay <;> simp [span?,held]
  services := by cases node.service <;> rfl
  delays := rfl
  own := nofun

theorem amounts_invoke {rest : List (Clause M)}
    (amounts : ∀ node : Node M, node.Amounts rest (node.declareAll rest).1 (node.declareAll rest).2)
    (node : Node M) (service : Service M) :
    node.Amounts (.invoke service :: rest) (node.declareAll (.invoke service :: rest)).1
      (node.declareAll (.invoke service :: rest)).2 := by
  cases held : node.service with
  | none =>
    have accepted : node.declareAll (.invoke service :: rest) = { node with service := some service }.declareAll rest := by
      simp [declareAll,declare,held]
    have later := amounts { node with service := some service }
    rw [accepted]
    refine ⟨later.state,later.on,later.always,?_,later.delay,?_,later.delays,later.own⟩
    · rw [held]; exact later.service
    · rw [held]; exact later.services
  | some first =>
    have refused : node.declareAll (.invoke service :: rest) =
        ((node.declareAll rest).1,.multipleServices node.state :: (node.declareAll rest).2) := by
      simp [declareAll,declare,held]
    have later := amounts node
    rw [refused]
    refine ⟨later.state,later.on,later.always,?_,later.delay,?_,?_,?_⟩
    · rw [later.service,held]; rfl
    · rw [List.count_cons_self,later.services,held]; simp [Clause.service?]
    · exact (List.count_cons_of_ne (by simp)).trans later.delays
    · exact List.forall_mem_cons.mpr ⟨.inl rfl,later.own⟩

theorem amounts_after {rest : List (Clause M)}
    (amounts : ∀ node : Node M, node.Amounts rest (node.declareAll rest).1 (node.declareAll rest).2)
    (node : Node M) (span : Nat) (transition : Transition M) :
    node.Amounts (.after span transition :: rest) (node.declareAll (.after span transition :: rest)).1
      (node.declareAll (.after span transition :: rest)).2 := by
  cases held : node.delay with
  | none =>
    have accepted : node.declareAll (.after span transition :: rest) =
        { node with delay := some ⟨span,[transition]⟩ }.declareAll rest := by
      simp [declareAll,declare,held]
    have later := amounts { node with delay := some ⟨span,[transition]⟩ }
    rw [accepted]
    refine ⟨later.state,later.on,later.always,later.service,?_,later.services,?_,later.own⟩
    · rw [later.delay]; simp [span?,held,Clause.delayed?]
    · rw [later.delays]; simp [span?,held,Clause.delayed?]
  | some delay =>
    by_cases same : delay.span = span
    · have accepted : node.declareAll (.after span transition :: rest) =
          { node with delay := some ⟨span,delay.transitions ++ [transition]⟩ }.declareAll rest := by
        simp [declareAll,declare,held,same]
      have later := amounts { node with delay := some ⟨span,delay.transitions ++ [transition]⟩ }
      rw [accepted]
      refine ⟨later.state,later.on,later.always,later.service,?_,later.services,?_,later.own⟩
      · rw [later.delay]; simp [span?,held,Clause.delayed?,same]
      · rw [later.delays]; simp [span?,held,Clause.delayed?,same]
    · have refused : node.declareAll (.after span transition :: rest) =
          ((node.declareAll rest).1,.multipleDelays node.state :: (node.declareAll rest).2) := by
        simp [declareAll,declare,held,same]
      have later := amounts node
      have other : span ≠ delay.span := fun equal => same equal.symm
      rw [refused]
      refine ⟨later.state,later.on,later.always,later.service,?_,?_,?_,?_⟩
      · rw [later.delay]; simp [span?,held,Clause.delayed?,other]
      · exact (List.count_cons_of_ne (by simp)).trans later.services
      · rw [List.count_cons_self,later.delays]; simp [span?,held,Clause.delayed?,other]
      · exact List.forall_mem_cons.mpr ⟨.inr rfl,later.own⟩

theorem amounts (node : Node M) (clauses : List (Clause M)) :
    node.Amounts clauses (node.declareAll clauses).1 (node.declareAll clauses).2 := by
  induction clauses generalizing node with
  | nil => exact amounts_nil node
  | cons clause rest ih =>
    cases clause with
    | entry action =>
      have later := ih { node with entry := node.entry ++ [action] }
      exact ⟨later.state,later.on,later.always,later.service,later.delay,later.services,later.delays,later.own⟩
    | exit action =>
      have later := ih { node with exit := node.exit ++ [action] }
      exact ⟨later.state,later.on,later.always,later.service,later.delay,later.services,later.delays,later.own⟩
    | on kind transition =>
      have later := ih { node with on := addOn kind transition node.on }
      refine ⟨later.state,?_,later.always,later.service,later.delay,later.services,later.delays,later.own⟩
      have moved := (addOn_perm kind transition node.on).append_right (rest.filterMap Clause.onSignal?)
      rw [List.append_assoc] at moved
      exact later.on.trans moved
    | always transition =>
      have later := ih { node with always := node.always ++ [transition] }
      refine ⟨later.state,later.on,?_,later.service,later.delay,later.services,later.delays,later.own⟩
      have same := later.always
      rw [List.append_assoc] at same
      exact same
    | invoke service => exact amounts_invoke ih node service
    | after span transition => exact amounts_after ih node span transition

end Node

/-! ## What a declaration amounts to -/

namespace StateDeclaration

variable (declaration : StateDeclaration M)

def services : List (Service M) := declaration.clauses.filterMap Clause.service?

/-- The delayed transitions, each with its span. -/
def delayed : List (Nat × Transition M) := declaration.clauses.filterMap Clause.delayed?

/-- The delay of the state is the one that is declared first. -/
def span? : Option Nat := declaration.delayed.head?.map Prod.fst

/-- All transitions that are given. -/
def given : List (Transition M) := declaration.clauses.flatMap Clause.transitions

/-- The transitions that count: those of a further service or of another delay do not. -/
def kept : List (Transition M) :=
  declaration.clauses.filterMap Clause.onSignal? ++ declaration.clauses.filterMap Clause.always? ++
  (declaration.services.head?.toList.flatMap fun service => service.onDone ++ service.onError) ++
  (declaration.delayed.filter fun entry => some entry.1 = declaration.span?).map Prod.snd

/-- How many services there are too many. -/
def extraServices : Nat := declaration.services.length - 1

/-- How many delayed transitions have another delay. -/
def otherDelays : Nat := declaration.delayed.countP fun entry => some entry.1 ≠ declaration.span?

theorem given_of_kept {transition : Transition M} (member : transition ∈ declaration.kept) :
    transition ∈ declaration.given := by
  simp only [kept,List.mem_append,List.mem_filterMap,List.mem_flatMap,List.mem_map,List.mem_filter,Option.mem_toList] at member
  rw [given,List.mem_flatMap]
  rcases member with ((⟨clause,among,gives⟩ | ⟨clause,among,gives⟩) | ⟨service,first,own⟩) | ⟨⟨span,_⟩,⟨delayed,_⟩,rfl⟩
  · refine ⟨clause,among,?_⟩
    cases clause <;> simp_all [Clause.onSignal?,Clause.transitions]
  · refine ⟨clause,among,?_⟩
    cases clause <;> simp_all [Clause.always?,Clause.transitions]
  · obtain ⟨clause,among,gives⟩ := List.mem_filterMap.mp (List.mem_of_head? first)
    refine ⟨clause,among,?_⟩
    cases clause <;> simp_all [Clause.service?,Clause.transitions]
  · obtain ⟨clause,among,gives⟩ := List.mem_filterMap.mp delayed
    refine ⟨clause,among,?_⟩
    cases clause <;> simp_all [Clause.delayed?,Clause.transitions]

theorem amounts : (Node.empty declaration.state).Amounts declaration.clauses declaration.finish.1 declaration.finish.2 :=
  (Node.empty declaration.state).amounts declaration.clauses

theorem finish_state : declaration.finish.1.state = declaration.state := declaration.amounts.state

/-- The transitions of the node that is built are those that count. -/
theorem finish_transitions : declaration.finish.1.transitions.Perm declaration.kept := by
  have amounts := declaration.amounts
  have always : declaration.finish.1.always = declaration.clauses.filterMap Clause.always? := amounts.always
  have service : declaration.finish.1.service = declaration.services.head? := amounts.service
  have delay : declaration.finish.1.delay = declaration.span?.map fun span =>
      ⟨span,(declaration.delayed.filter fun entry => entry.1 = span).map Prod.snd⟩ := amounts.delay
  rw [Node.transitions,kept,always,service,delay]
  refine ((amounts.on.append_right _).append ?_).append ?_
  · cases declaration.services.head? <;> simp
  · cases declaration.span? <;> simp [eq_comm]

theorem count_services (state : M.State) :
    declaration.finish.2.count (.multipleServices state) =
      if declaration.state = state then declaration.extraServices else 0 := by
  by_cases same : declaration.state = state
  · rw [if_pos same,← same]
    exact declaration.amounts.services
  · rw [if_neg same,List.count_eq_zero]
    intro member
    rcases declaration.amounts.own _ member with own | own
    · exact same (Problem.multipleServices.inj own).symm
    · cases own

theorem count_delays (state : M.State) :
    declaration.finish.2.count (.multipleDelays state) =
      if declaration.state = state then declaration.otherDelays else 0 := by
  by_cases same : declaration.state = state
  · rw [if_pos same,← same]
    exact declaration.amounts.delays
  · rw [if_neg same,List.count_eq_zero]
    intro member
    rcases declaration.amounts.own _ member with own | own
    · cases own
    · exact same (Problem.multipleDelays.inj own).symm

end StateDeclaration

end Statechart
