import Mathlib.Data.List.Induction
import Statechart.Proofs.Building

/-!
# Assembly: the node that clauses make, in whatever order they come

Each list of a node is what the clauses of one method give, in their order, and a clause is refused because of
earlier clauses of its own method only: the service is that of the first clause with one, and the delay that of the
first clause with one (`finish_assembles`). So the node depends on nothing but the order among the clauses of each
method, and the problems depend on it up to their own order (`finish_congr`).
-/
namespace Statechart

variable {M : Machine}

/-! ## Services -/

namespace ServiceClause

def onDone? : ServiceClause M → Option (Transition M)
  | .onDone transition => some transition
  | .onError _ => none

def onError? : ServiceClause M → Option (Transition M)
  | .onDone _ => none
  | .onError transition => some transition

end ServiceClause

theorem Service.declare_foldl (service : Service M) (clauses : List (ServiceClause M)) :
    clauses.foldl Service.declare service = { service with
      onDone := service.onDone ++ clauses.filterMap ServiceClause.onDone?
      onError := service.onError ++ clauses.filterMap ServiceClause.onError? } := by
  induction clauses generalizing service with
  | nil => simp
  | cons clause rest ih =>
    rw [List.foldl_cons,ih]
    cases clause <;>
      simp only [declare,ServiceClause.onDone?,ServiceClause.onError?,List.filterMap_cons,List.append_assoc,
        List.cons_append,List.nil_append]

/-- The two lists of a service are independent, and each keeps the order of its clauses. -/
theorem Service.declared_eq (id : String) (factory : M.Factory) (clauses : List (ServiceClause M)) :
    Service.declared id factory clauses =
      ⟨id,factory,clauses.filterMap ServiceClause.onDone?,clauses.filterMap ServiceClause.onError?⟩ := by
  rw [declared,declare_foldl]
  rfl

/-! ## Methods -/

namespace Clause

/-- The ways to add to a state. -/
inductive Method where
  | entry
  | exit
  | on
  | always
  | invoke
  | after
  deriving DecidableEq

def method : Clause M → Method
  | .entry _ => .entry
  | .exit _ => .exit
  | .on _ _ => .on
  | .always _ => .always
  | .invoke _ => .invoke
  | .after _ _ => .after

/-- A transition for a kind of signal, with the kind. -/
def on? : Clause M → Option (M.Kind × Transition M)
  | .on kind transition => some (kind,transition)
  | _ => none

/-- Each part of a node is added to by the clauses of one method alone. -/
theorem gives_by_method (clause : Clause M) :
    (clause.method ≠ .entry → Clause.entry? clause = none) ∧ (clause.method ≠ .exit → clause.exit? = none) ∧
      (clause.method ≠ .on → clause.on? = none) ∧ (clause.method ≠ .always → clause.always? = none) ∧
      (clause.method ≠ .invoke → clause.service? = none) ∧ (clause.method ≠ .after → clause.delayed? = none) := by
  cases clause <;> simp [method, entry?,exit?,on?,always?,service?,delayed?]

/-- Of the clauses of one method, a list of clauses gives what only they have to give. -/
theorem filterMap_method {α : Type} {adds : Clause M → Option α} {method : Method}
    (own : ∀ clause, clause.method ≠ method → adds clause = none) (clauses : List (Clause M)) :
    (clauses.filter fun clause => clause.method = method).filterMap adds = clauses.filterMap adds := by
  induction clauses with
  | nil => rfl
  | cons clause rest ih =>
    by_cases same : clause.method = method
    · simp [same,List.filterMap_cons,ih]
    · simp [same,ih,own clause same]

/-- Two lists of clauses have the clauses of each method in the same order. -/
def Alike (left right : List (Clause M)) : Prop :=
  ∀ method, (left.filter fun clause => clause.method = method) = right.filter fun clause => clause.method = method

theorem Alike.filterMap_eq {α : Type} {adds : Clause M → Option α} {left right : List (Clause M)} (alike : Alike left right)
    (method : Method) (own : ∀ clause, clause.method ≠ method → adds clause = none) :
    left.filterMap adds = right.filterMap adds := by
  rw [← filterMap_method own left,alike method,filterMap_method own right]

/-- Neighbours of different methods may be swapped. -/
theorem alike_swap (before after : List (Clause M)) {first second : Clause M} (different : first.method ≠ second.method) :
    Alike (before ++ first :: second :: after) (before ++ second :: first :: after) := by
  intro method
  simp only [List.filter_append,List.filter_cons]
  by_cases own : first.method = method
  · have other : second.method ≠ method := fun same => different (own.trans same.symm)
    simp [own,other]
  · simp [own]

/-- The problem that a clause makes after other clauses of the same state: a service is refused after a service, and
a delay after a first delay that has another span. -/
def refusal? (state : M.State) (before : List (Clause M)) : Clause M → Option (Problem M.State)
  | .invoke _ => if before.filterMap service? = [] then none else some (.multipleServices state)
  | .after span _ => match (before.filterMap delayed?).head? with
    | none => none
    | some first => if first.1 = span then none else some (.multipleDelays state)
  | _ => none

end Clause

/-! ## What a sequence of clauses makes -/

namespace Node

theorem declareAll_append (node : Node M) (left right : List (Clause M)) :
    node.declareAll (left ++ right) = (((node.declareAll left).1.declareAll right).1,
      (node.declareAll left).2 ++ ((node.declareAll left).1.declareAll right).2) := by
  induction left generalizing node with
  | nil => rfl
  | cons clause rest ih =>
    rw [List.cons_append,declareAll,declareAll]
    cases node.declare clause with
    | ok next => exact ih next
    | error problem => simp only [ih node,List.cons_append]

/-- The groups of transitions are made by the transitions for signals alone. -/
theorem declareAll_on (node : Node M) (clauses : List (Clause M)) :
    (node.declareAll clauses).1.on =
      (clauses.filterMap Clause.on?).foldl (fun groups entry => addOn entry.1 entry.2 groups) node.on := by
  induction clauses generalizing node with
  | nil => rfl
  | cons clause rest ih =>
    rw [declareAll]
    cases result : node.declare clause with
    | ok next =>
      have lists := (declare_lists result).2.2
      have later := ih next
      rw [lists] at later
      cases clause <;> exact later
    | error problem =>
      have later := ih node
      rcases refused_cases result with ⟨service,rfl⟩ | ⟨span,transition,rfl⟩ <;> exact later

end Node

namespace StateDeclaration

/-- Whether a clause is refused shows in the clauses before it. -/
theorem refused_iff (state : M.State) (before : List (Clause M)) (clause : Clause M) :
    ((StateDeclaration.mk state before).finish.1.declareAll [clause]).2 = (clause.refusal? state before).toList := by
  have amounts := (StateDeclaration.mk state before).amounts
  have own := (StateDeclaration.mk state before).finish_state
  cases clause with
  | invoke service =>
    have held : (StateDeclaration.mk state before).finish.1.service = (before.filterMap Clause.service?).head? :=
      amounts.service
    rw [Clause.refusal?]
    cases services : before.filterMap Clause.service? with
    | nil => simp [Node.declareAll,Node.declare,held,services]
    | cons first rest => simp [Node.declareAll,Node.declare,held,services,own]
  | after span transition =>
    have held := amounts.delay
    rw [Clause.refusal?]
    cases delays : before.filterMap Clause.delayed? with
    | nil => simp [Node.declareAll,Node.declare,held,delays,Node.span?,Node.empty]
    | cons first rest =>
      by_cases same : first.1 = span <;>
        simp [Node.declareAll,Node.declare,held,delays,Node.span?,Node.empty,same,own]
  | _ => rfl

/-- The problems are those of the clauses that are refused, in the order of the clauses. -/
theorem finish_refusals (state : M.State) (clauses : List (Clause M)) :
    (StateDeclaration.mk state clauses).finish.2 =
      clauses.zipIdx.filterMap fun entry => entry.1.refusal? state (clauses.take entry.2) := by
  induction clauses using List.reverseRecOn with
  | nil => rfl
  | append_singleton before clause ih =>
    have last := refused_iff state before clause
    have earlier : (before.zipIdx.filterMap fun entry => entry.1.refusal? state ((before ++ [clause]).take entry.2)) =
        before.zipIdx.filterMap fun entry => entry.1.refusal? state (before.take entry.2) := by
      apply List.filterMap_congr
      rintro ⟨other,index⟩ member
      have bound := List.snd_lt_of_mem_zipIdx member
      rw [List.take_append_of_le_length (by omega)]
    rw [finish] at ih last ⊢
    rw [Node.declareAll_append,ih,last,List.zipIdx_append,List.filterMap_append,earlier]
    rw [Nat.zero_add,List.zipIdx_singleton,List.filterMap_cons,List.take_left]
    cases clause.refusal? state before <;> rfl

/-- The node has what the clauses of each method say, in the order of the clauses. -/
theorem finish_node (declaration : StateDeclaration M) : declaration.finish.1 = {
    state := declaration.state
    entry := declaration.clauses.filterMap Clause.entry?
    exit := declaration.clauses.filterMap Clause.exit?
    on := (declaration.clauses.filterMap Clause.on?).foldl (fun groups entry => Node.addOn entry.1 entry.2 groups) []
    always := declaration.clauses.filterMap Clause.always?
    service := declaration.services.head?
    delay := declaration.span?.map fun span =>
      ⟨span,(declaration.delayed.filter fun entry => entry.1 = span).map Prod.snd⟩ } := by
  have amounts := declaration.amounts
  have entries : declaration.finish.1.entry = _ := Node.declareAll_entry _ _
  have exits : declaration.finish.1.exit = _ := Node.declareAll_exit _ _
  have groups : declaration.finish.1.on = _ := Node.declareAll_on _ _
  have always : declaration.finish.1.always = _ := amounts.always
  have service : declaration.finish.1.service = _ := amounts.service
  have delay : declaration.finish.1.delay = _ := amounts.delay
  calc declaration.finish.1
      = ⟨declaration.finish.1.state,declaration.finish.1.entry,declaration.finish.1.exit,declaration.finish.1.on,
          declaration.finish.1.always,declaration.finish.1.service,declaration.finish.1.delay⟩ := rfl
    _ = _ := by rw [amounts.state,entries,exits,groups,always,service,delay]; rfl

/-- The order among clauses of different methods matters to nothing but the order of the problems. -/
theorem finish_congr (state : M.State) {left right : List (Clause M)} (alike : Clause.Alike left right) :
    (StateDeclaration.mk state left).finish.1 = (StateDeclaration.mk state right).finish.1 ∧
      (StateDeclaration.mk state left).finish.2.Perm (StateDeclaration.mk state right).finish.2 := by
  have entries := alike.filterMap_eq .entry fun clause => clause.gives_by_method.1
  have exits := alike.filterMap_eq .exit fun clause => clause.gives_by_method.2.1
  have groups := alike.filterMap_eq .on fun clause => clause.gives_by_method.2.2.1
  have always := alike.filterMap_eq .always fun clause => clause.gives_by_method.2.2.2.1
  have services : (StateDeclaration.mk state left).services = (StateDeclaration.mk state right).services :=
    alike.filterMap_eq .invoke fun clause => clause.gives_by_method.2.2.2.2.1
  have delayed : (StateDeclaration.mk state left).delayed = (StateDeclaration.mk state right).delayed :=
    alike.filterMap_eq .after fun clause => clause.gives_by_method.2.2.2.2.2
  have span : (StateDeclaration.mk state left).span? = (StateDeclaration.mk state right).span? := by
    rw [span?,span?,delayed]
  constructor
  · rw [finish_node,finish_node,entries,exits,groups,always,services,delayed,span]
  · rw [List.perm_iff_count]
    intro problem
    -- Only two problems can come of clauses, and how often they do is said by the services and the delays.
    by_cases own : problem = .multipleServices state ∨ problem = .multipleDelays state
    · rcases own with rfl | rfl
      · rw [count_services,count_services,extraServices,extraServices,services]
      · rw [count_delays,count_delays,otherDelays,otherDelays,delayed,span]
    · rw [List.count_eq_zero.mpr fun member => own ((StateDeclaration.mk state left).amounts.own problem member),
        List.count_eq_zero.mpr fun member => own ((StateDeclaration.mk state right).amounts.own problem member)]

/-- A sequence of clauses makes one node and a list of problems: each list of the node has what the clauses of its
method give, in order, a first service and a first delay are the only ones, and each clause with another one makes a
problem. Neighbours of different methods may be swapped, for all that it does to the node, and to the problems
but for their order. -/
theorem finish_assembles (declaration : StateDeclaration M) :
    declaration.finish.1.state = declaration.state ∧
      declaration.finish.1.entry = declaration.clauses.filterMap Clause.entry? ∧
      declaration.finish.1.exit = declaration.clauses.filterMap Clause.exit? ∧
      declaration.finish.1.always = declaration.clauses.filterMap Clause.always? ∧
      (∀ sent, declaration.finish.1.candidates (.signal sent) =
        declaration.clauses.filterMap (Clause.onKind? (M.kind sent))) ∧
      declaration.finish.1.service = (declaration.clauses.filterMap Clause.service?).head? ∧
      (∀ id factory outcomes, declaration.finish.1.service = some (.declared id factory outcomes) →
        ∀ origin, (∀ output, declaration.finish.1.candidates (.done origin output) =
            outcomes.filterMap ServiceClause.onDone?) ∧
          ∀ error, declaration.finish.1.candidates (.failed origin error) =
            outcomes.filterMap ServiceClause.onError?) ∧
      declaration.finish.1.delay = (declaration.clauses.filterMap Clause.delayed?).head?.map (fun first =>
        ⟨first.1,((declaration.clauses.filterMap Clause.delayed?).filter fun entry => entry.1 = first.1).map Prod.snd⟩) ∧
      declaration.finish.2 = (declaration.clauses.zipIdx.filterMap fun entry =>
        entry.1.refusal? declaration.state (declaration.clauses.take entry.2)) ∧
      ∀ before first second after, declaration.clauses = before ++ first :: second :: after →
        first.method ≠ second.method →
        (StateDeclaration.mk declaration.state (before ++ second :: first :: after)).finish.1 = declaration.finish.1 ∧
          (StateDeclaration.mk declaration.state (before ++ second :: first :: after)).finish.2.Perm
            declaration.finish.2 := by
  have node := declaration.finish_node
  refine ⟨by rw [node],by rw [node],by rw [node],by rw [node],?_,by rw [node]; rfl,?_,?_,
    finish_refusals declaration.state declaration.clauses,?_⟩
  · intro sent
    exact Node.declareAll_onKind _ _ _
  · intro id factory outcomes held origin
    rw [Service.declared_eq] at held
    constructor
    · intro output
      rw [Node.candidates,held]
      rfl
    · intro error
      rw [Node.candidates,held]
      rfl
  · rw [node,span?,delayed]
    cases (declaration.clauses.filterMap Clause.delayed?).head? <;> rfl
  · intro before first second after split different
    obtain ⟨state,clauses⟩ := declaration
    subst split
    exact finish_congr state (Clause.alike_swap before after different.symm)

/-- A delay and a service are given again behind others, once the same delay and once another. -/
def jumble : StateDeclaration Bench.machine where
  state := .a
  clauses := [
    .after 5 ⟨none,[],some .b⟩,
    .invoke (.declared "first" ⟨"first",none,none,none,none⟩ [.onError ⟨none,[],some .c⟩,.onDone ⟨none,[],some .b⟩]),
    .after 7 ⟨none,[],some .c⟩,
    .invoke (.declared "second" ⟨"second",none,none,none,none⟩ []),
    .after 5 ⟨none,[],some .d⟩]

theorem jumble_finish_assembles :
    jumble.finish.1.delay = some ⟨5,[⟨none,[],some .b⟩,⟨none,[],some .d⟩]⟩ ∧
    jumble.finish.2 = [.multipleDelays .a,.multipleServices .a] ∧
    (StateDeclaration.mk jumble.state (jumble.clauses.take 2 ++ [jumble.clauses[3],jumble.clauses[2],jumble.clauses[4]])).finish.1 =
      jumble.finish.1 := by
  obtain ⟨_,_,_,_,_,_,_,delay,problems,swap⟩ := jumble.finish_assembles
  refine ⟨delay,problems,?_⟩
  exact (swap (jumble.clauses.take 2) jumble.clauses[2] jumble.clauses[3] [jumble.clauses[4]] rfl (by decide)).1

end StateDeclaration

end Statechart
