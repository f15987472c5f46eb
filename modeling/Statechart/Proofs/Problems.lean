import Mathlib.Algebra.GroupWithZero.Nat
import Mathlib.Data.List.Nodup
import Statechart.Bench.Vocabulary
import Statechart.Proofs.Clauses

/-!
# Problems: which ones are reported, and how often

A chart that is not built is refused with its problems. They are looked for in two ways: what is missing or
declared twice in the declarations as they are written down, and unknown targets only in the nodes that come of
them. So what is reported of targets is true of the transitions that count, and it is true of all that were given
unless one that does not count is the only one to point at an undeclared state (`every_problem`).
-/
namespace Statechart

variable {M : Machine}

/-! ## What is to be reported -/

namespace Declaration

variable (declaration : Declaration M)

/-- The declarations of a state, in order. -/
def of (state : M.State) : List (StateDeclaration M) := declaration.states.filter fun other => other.state = state

def Declares (state : M.State) : Prop := ∃ other ∈ declaration.states, other.state = state

instance (state : M.State) : Decidable (declaration.Declares state) :=
  inferInstanceAs (Decidable (∃ other ∈ declaration.states, other.state = state))

/-- All transitions that are given for a state, in whichever of its declarations. -/
def given (state : M.State) : List (Transition M) := (declaration.of state).flatMap StateDeclaration.given

/-- The transitions of a state that count: those of its last declaration that do. -/
def kept (state : M.State) : List (Transition M) := (declaration.of state).getLast?.toList.flatMap StateDeclaration.kept

/-- A list of problems is what there is to be said about a declaration, with these transitions of its states. -/
structure Reports (transitions : M.State → List (Transition M)) (reported : List (Problem M.State)) : Prop where
  missingInitialState : reported.count .missingInitialState = if declaration.initial.isNone then 1 else 0
  missingContext : reported.count .missingContext = if declaration.context.isNone then 1 else 0
  noStates : reported.count .noStates = if declaration.states.isEmpty then 1 else 0
  multipleServices : ∀ state, reported.count (.multipleServices state) =
    ((declaration.of state).map StateDeclaration.extraServices).sum
  multipleDelays : ∀ state, reported.count (.multipleDelays state) =
    ((declaration.of state).map StateDeclaration.otherDelays).sum
  duplicateState : ∀ state, reported.count (.duplicateState state) = (declaration.of state).length - 1
  unknownInitialState : ∀ state, reported.count (.unknownInitialState state) =
    if declaration.initial = some state ∧ declaration.states ≠ [] ∧ ¬ declaration.Declares state then 1 else 0
  unknownTarget : ∀ source target, .unknownTarget source target ∈ reported ↔
    ¬ declaration.Declares target ∧ ∃ transition ∈ transitions source, transition.target = some target

/-- Whatever undeclared state a transition points at, one that counts points at it, too. -/
def Unhidden : Prop := ∀ source, ∀ transition ∈ declaration.given source, ∀ target, transition.target = some target →
  ¬ declaration.Declares target → ∃ other ∈ declaration.kept source, other.target = some target

end Declaration

/-! ## Which part reports which problem -/

namespace Problem

variable {S : Type} [DecidableEq S]

/-- The part of the check that finds a problem. -/
def part : Problem S → Nat
  | .missingInitialState => 0
  | .missingContext => 0
  | .noStates => 0
  | .multipleServices _ => 1
  | .multipleDelays _ => 1
  | .duplicateState _ => 1
  | .unknownInitialState _ => 2
  | .unknownTarget _ _ => 3

theorem count_of_part {problems : List (Problem S)} {part : Nat} (all : ∀ problem ∈ problems, problem.part = part)
    {problem : Problem S} (other : problem.part ≠ part) : problems.count problem = 0 :=
  List.count_eq_zero.mpr fun member => other (all problem member)

end Problem

/-! ## The nodes that come of the declarations -/

theorem find?_insertNode (node : Node M) (nodes : List (Node M)) (state : M.State) :
    (insertNode node nodes).find? (fun other => other.state = state) =
      if node.state = state then some node else nodes.find? fun other => other.state = state := by
  induction nodes with
  | nil => by_cases same : node.state = state <;> simp [insertNode,same]
  | cons other rest ih =>
    rw [insertNode]
    by_cases replaced : other.state = node.state
    · by_cases same : node.state = state <;> simp [replaced,same]
    · rw [if_neg replaced]
      by_cases here : other.state = state
      · have different : node.state ≠ state := fun same => replaced (here.trans same.symm)
        simp [here,different]
      · simp [here,ih]

theorem map_insertNode (node : Node M) (nodes : List (Node M)) :
    (insertNode node nodes).map Node.state =
      if node.state ∈ nodes.map Node.state then nodes.map Node.state else nodes.map Node.state ++ [node.state] := by
  induction nodes with
  | nil => rfl
  | cons other rest ih =>
    rw [insertNode]
    by_cases replaced : other.state = node.state
    · simp [replaced]
    · have different : node.state ≠ other.state := fun same => replaced same.symm
      rw [if_neg replaced]
      simp only [List.map_cons,ih]
      by_cases member : node.state ∈ rest.map Node.state
      · rw [if_pos member,if_pos (List.mem_cons_of_mem _ member)]
      · rw [if_neg member,if_neg (fun listed => (List.mem_cons.mp listed).elim different member)]
        rfl

theorem nodup_collectNodes (states : List (StateDeclaration M)) {nodes : List (Node M)} (unique : (nodes.map Node.state).Nodup) :
    ((collectNodes states nodes).1.map Node.state).Nodup := by
  induction states generalizing nodes with
  | nil => exact unique
  | cons declaration rest ih =>
    apply ih
    rw [map_insertNode]
    split
    · exact unique
    · rename_i absent
      exact unique.append (List.nodup_singleton _) (List.disjoint_singleton.mpr absent)

/-- The node of a state is that of its last declaration. -/
theorem find?_collectNodes (states : List (StateDeclaration M)) (nodes : List (Node M)) (state : M.State) :
    (collectNodes states nodes).1.find? (fun node => node.state = state) =
      ((states.filter fun other => other.state = state).getLast?.map fun other => other.finish.1).or
        (nodes.find? fun node => node.state = state) := by
  induction states generalizing nodes with
  | nil => rfl
  | cons declaration rest ih =>
    have later := ih (insertNode declaration.finish.1 nodes)
    rw [find?_insertNode,declaration.finish_state] at later
    refine later.trans ?_
    by_cases same : declaration.state = state
    · rw [if_pos same,List.filter_cons_of_pos (by simpa using same),List.getLast?_cons]
      cases (rest.filter fun other => other.state = state).getLast? <;> rfl
    · rw [if_neg same,List.filter_cons_of_neg (by simpa using same)]

/-! ## How often each problem is found -/

theorem part_collectNodes (states : List (StateDeclaration M)) (nodes : List (Node M)) :
    ∀ problem ∈ (collectNodes states nodes).2, problem.part = 1 := by
  induction states generalizing nodes with
  | nil => exact nofun
  | cons declaration rest ih =>
    intro problem member
    simp only [collectNodes,List.mem_append] at member
    rcases member with (own | repeated) | later
    · rcases declaration.amounts.own problem own with same | same <;> rw [same] <;> rfl
    · split at repeated
      · rw [List.mem_singleton.mp repeated]; rfl
      · cases repeated
    · exact ih _ problem later

theorem count_repetition {problem : Problem M.State} {state : M.State} (different : problem ≠ .duplicateState state)
    {repeated : Bool} : (if repeated then [Problem.duplicateState state] else []).count problem = 0 := by
  cases repeated with
  | false => rfl
  | true => exact List.count_eq_zero.mpr fun member => different (List.mem_singleton.mp member)

/-- Problems that single declarations have add up. -/
theorem count_collectNodes {problem : Problem M.State} {state : M.State} {weight : StateDeclaration M → Nat}
    (own : ∀ declaration, declaration.finish.2.count problem = if declaration.state = state then weight declaration else 0)
    (different : ∀ repeated, problem ≠ .duplicateState repeated) (states : List (StateDeclaration M)) (nodes : List (Node M)) :
    (collectNodes states nodes).2.count problem = ((states.filter fun other => other.state = state).map weight).sum := by
  induction states generalizing nodes with
  | nil => rfl
  | cons declaration rest ih =>
    simp only [collectNodes,List.count_append,own,ih,count_repetition (different _)]
    by_cases same : declaration.state = state
    · simp [same]
    · simp [same]

theorem any_eq_isSome (nodes : List (Node M)) (state : M.State) :
    (nodes.any fun node => node.state = state) = (nodes.find? fun node => node.state = state).isSome :=
  Bool.eq_iff_iff.mpr (List.any_eq_true.trans List.find?_isSome.symm)

/-- Every declaration of a state is a repeated one, but the first where there is no node yet. -/
theorem count_duplicates (states : List (StateDeclaration M)) (nodes : List (Node M)) (state : M.State) :
    (collectNodes states nodes).2.count (.duplicateState state) =
      (states.filter fun other => other.state = state).length -
        if nodes.any fun node => node.state = state then 0 else 1 := by
  induction states generalizing nodes with
  | nil => simp [collectNodes]
  | cons declaration rest ih =>
    have none : declaration.finish.2.count (.duplicateState state) = 0 := by
      refine List.count_eq_zero.mpr fun member => ?_
      rcases declaration.amounts.own _ member with own | own <;> cases own
    simp only [collectNodes,List.count_append,none,ih,any_eq_isSome,find?_insertNode,declaration.finish_state,Nat.zero_add]
    by_cases same : declaration.state = state
    · cases held : (nodes.find? fun node => node.state = state).isSome <;> simp [same,held]
      omega
    · have other : Problem.duplicateState state ≠ .duplicateState declaration.state :=
        fun equal => same (Problem.duplicateState.inj equal).symm
      rw [count_repetition other,if_neg same,List.filter_cons_of_neg (by simpa using same),Nat.zero_add]

/-! ## Unknown targets -/

/-- Where every node has its own state, what is summed up for one state is what its node has. -/
theorem sum_of_state {nodes : List (Node M)} (unique : (nodes.map Node.state).Nodup) (state : M.State) (weight : Node M → Nat) :
    (nodes.map fun node => if node.state = state then weight node else 0).sum =
      ((nodes.find? fun node => node.state = state).map weight).getD 0 := by
  induction nodes with
  | nil => rfl
  | cons node rest ih =>
    rw [List.map_cons,List.nodup_cons] at unique
    by_cases same : node.state = state
    · have absent : rest.find? (fun other => other.state = state) = none := by
        rw [List.find?_eq_none]
        intro other member again
        exact unique.1 (List.mem_map.mpr ⟨other,member,(of_decide_eq_true again).trans same.symm⟩)
      have none := ih unique.2
      rw [absent] at none
      simp [same,none]
    · simp [same,ih unique.2]

/-- A state that is not known is reported once for every transition of a node that points at it. -/
theorem count_targets (known : M.State → Bool) (node : Node M) (source target : M.State) :
    ((node.transitions.filterMap Transition.target).filterMap fun other =>
        if known other then none else some (Problem.unknownTarget node.state other)).count (.unknownTarget source target) =
      if node.state = source then
        if known target then 0 else node.transitions.countP fun transition => transition.target = some target
      else 0 := by
  have counted : ∀ transition ∈ node.transitions, (transition.target.map fun other =>
        (if known other then none else some (Problem.unknownTarget node.state other)) ==
          some (.unknownTarget source target)).getD false = true ↔
      (decide (node.state = source) && (!known target && decide (transition.target = some target))) = true := by
    intro transition _
    cases transition.target with
    | none => simp
    | some other =>
      by_cases same : other = target
      · cases unknown : known target <;> simp [same,unknown]
      · cases unknown : known other <;> simp [same,unknown]
  rw [List.count_filterMap,List.countP_filterMap,List.countP_congr counted]
  by_cases same : node.state = source
  · cases unknown : known target <;> simp [same]
  · simp [same]

theorem count_unknownTargets {nodes : List (Node M)} (unique : (nodes.map Node.state).Nodup) (source target : M.State) :
    (unknownTargets nodes).count (.unknownTarget source target) =
      if nodes.any fun node => node.state = target then 0
      else ((nodes.find? fun node => node.state = source).map fun node =>
        node.transitions.countP fun transition => transition.target = some target).getD 0 := by
  have each := fun node => count_targets (fun other => nodes.any fun node => node.state = other) node source target
  rw [unknownTargets,List.count_flatMap]
  refine (congrArg List.sum (List.map_congr_left fun node _ => each node)).trans ?_
  rw [sum_of_state unique]
  cases known : nodes.any fun node => node.state = target
  · rfl
  · cases nodes.find? fun node => node.state = source <;> rfl

theorem part_unknownTargets (nodes : List (Node M)) : ∀ problem ∈ unknownTargets nodes, problem.part = 3 := by
  intro problem member
  rw [unknownTargets,List.mem_flatMap] at member
  obtain ⟨node,_,points⟩ := member
  obtain ⟨target,_,unknown⟩ := List.mem_filterMap.mp points
  split at unknown
  · cases unknown
  · cases unknown; rfl

/-! ## What is reported -/

namespace Declaration

variable {declaration : Declaration M} {reported : List (Problem M.State)}

/-- The nodes that come of the declared states. -/
def nodes (declaration : Declaration M) : List (Node M) := (collectNodes declaration.states []).1

theorem find?_nodes (declaration : Declaration M) (state : M.State) :
    declaration.nodes.find? (fun node => node.state = state) =
      (declaration.of state).getLast?.map fun other => other.finish.1 := by
  rw [nodes,find?_collectNodes,of]
  simp

theorem declares_iff (declaration : Declaration M) (state : M.State) :
    declaration.Declares state ↔ declaration.of state ≠ [] := by
  simp [Declares,of]

theorem any_nodes (declaration : Declaration M) (state : M.State) :
    (declaration.nodes.any fun node => node.state = state) = decide (declaration.Declares state) := by
  rw [any_eq_isSome,find?_nodes,Option.isSome_map,Bool.eq_iff_iff,decide_eq_true_eq,declares_iff]
  exact List.getLast?_isSome

theorem nodes_eq_nil_iff (declaration : Declaration M) : declaration.nodes = [] ↔ declaration.states = [] := by
  constructor
  · intro none
    by_contra some
    obtain ⟨other,member⟩ := List.exists_mem_of_ne_nil _ some
    have known := declaration.any_nodes other.state
    rw [none,decide_eq_true (p := declaration.Declares other.state) ⟨other,member,rfl⟩] at known
    cases known
  · intro none
    rw [nodes,none]
    rfl

theorem part_missing (declaration : Declaration M) : ∀ problem ∈ declaration.missing, problem.part = 0 := by
  intro problem member
  simp only [missing,List.mem_append] at member
  rcases member with (one | one) | one <;> split at one <;> simp_all [Problem.part]

theorem part_unknownInitial (declaration : Declaration M) (nodes : List (Node M)) :
    ∀ problem ∈ declaration.unknownInitial nodes, problem.part = 2 := by
  intro problem member
  rw [unknownInitial] at member
  split at member
  · cases member
  · split at member <;> simp_all [Problem.part]

theorem problems_eq (declaration : Declaration M) : declaration.problems =
    declaration.missing ++ (collectNodes declaration.states []).2 ++ declaration.unknownInitial declaration.nodes ++
      (unknownTargets declaration.nodes).mergeSort fun left right =>
        left.message M.stateName ≤ right.message M.stateName := rfl

/-- Every problem is found by one part of the check only. -/
theorem count_problems (declaration : Declaration M) (problem : Problem M.State) :
    declaration.problems.count problem =
      match problem.part with
      | 0 => declaration.missing.count problem
      | 1 => (collectNodes declaration.states []).2.count problem
      | 2 => (declaration.unknownInitial declaration.nodes).count problem
      | _ => (unknownTargets declaration.nodes).count problem := by
  have all : declaration.problems.count problem =
      declaration.missing.count problem + (collectNodes declaration.states []).2.count problem +
        (declaration.unknownInitial declaration.nodes).count problem + (unknownTargets declaration.nodes).count problem := by
    have sorted := List.mergeSort_perm (unknownTargets declaration.nodes) fun left right =>
      left.message M.stateName ≤ right.message M.stateName
    rw [problems_eq,List.count_append,List.count_append,List.count_append,sorted.count_eq]
  have missing : problem.part ≠ 0 → declaration.missing.count problem = 0 :=
    Problem.count_of_part declaration.part_missing
  have found : problem.part ≠ 1 → (collectNodes declaration.states []).2.count problem = 0 :=
    Problem.count_of_part (part_collectNodes _ _)
  have initial : problem.part ≠ 2 → (declaration.unknownInitial declaration.nodes).count problem = 0 :=
    Problem.count_of_part (declaration.part_unknownInitial _)
  have targets : problem.part ≠ 3 → (unknownTargets declaration.nodes).count problem = 0 :=
    Problem.count_of_part (part_unknownTargets _)
  rw [all]
  cases problem <;> simp_all [Problem.part]

theorem count_kept (declaration : Declaration M) (source target : M.State) :
    declaration.problems.count (.unknownTarget source target) =
      if declaration.Declares target then 0
      else (declaration.kept source).countP fun transition => transition.target = some target := by
  have unique : (declaration.nodes.map Node.state).Nodup := nodup_collectNodes _ List.nodup_nil
  rw [count_problems]
  simp only [Problem.part,count_unknownTargets unique,any_nodes,find?_nodes,kept,decide_eq_true_eq]
  cases (declaration.of source).getLast? with
  | none => rfl
  | some last => simp [last.finish_transitions.countP_eq]

theorem count_declared {problem : Problem M.State} {state : M.State} {weight : StateDeclaration M → Nat}
    (part : problem.part = 1)
    (own : ∀ declaration, declaration.finish.2.count problem = if declaration.state = state then weight declaration else 0)
    (different : ∀ repeated, problem ≠ .duplicateState repeated) (declaration : Declaration M) :
    declaration.problems.count problem = ((declaration.of state).map weight).sum := by
  rw [count_problems,part]
  exact count_collectNodes own different _ _

theorem count_missing (declaration : Declaration M) :
    declaration.missing.count .missingInitialState = (if declaration.initial.isNone then 1 else 0) ∧
    declaration.missing.count .missingContext = (if declaration.context.isNone then 1 else 0) ∧
    declaration.missing.count .noStates = if declaration.states.isEmpty then 1 else 0 := by
  rw [missing]
  cases declaration.initial.isNone <;> cases declaration.context.isNone <;> cases declaration.states.isEmpty <;> simp

theorem count_unknownInitial (declaration : Declaration M) (state : M.State) :
    (declaration.unknownInitial declaration.nodes).count (.unknownInitialState state) =
      if declaration.initial = some state ∧ declaration.states ≠ [] ∧ ¬ declaration.Declares state then 1 else 0 := by
  rw [unknownInitial]
  cases declaration.initial with
  | none => simp
  | some initial =>
    by_cases none : declaration.states = []
    · simp [none,declaration.nodes_eq_nil_iff.mpr none]
    · have some : declaration.nodes.isEmpty = false := by
        simpa using fun empty => none (declaration.nodes_eq_nil_iff.mp empty)
      simp only [some,any_nodes,Bool.false_or,decide_eq_true_eq]
      by_cases known : declaration.Declares initial
      · rw [if_pos known,if_neg]
        · rfl
        · rintro ⟨same,_,unknown⟩
          exact unknown (Option.some.inj same ▸ known)
      · rw [if_neg known]
        by_cases same : initial = state
        · simp [← same,none,known]
        · simp [same]

theorem problems_reports (declaration : Declaration M) : declaration.Reports declaration.kept declaration.problems where
  missingInitialState := by
    rw [count_problems]
    exact declaration.count_missing.1
  missingContext := by
    rw [count_problems]
    exact declaration.count_missing.2.1
  noStates := by
    rw [count_problems]
    exact declaration.count_missing.2.2
  multipleServices state := count_declared rfl (fun other => other.count_services state) nofun declaration
  multipleDelays state := count_declared rfl (fun other => other.count_delays state) nofun declaration
  duplicateState state := by
    rw [count_problems]
    exact count_duplicates declaration.states [] state
  unknownInitialState state := by
    rw [count_problems]
    exact declaration.count_unknownInitial state
  unknownTarget source target := by
    rw [← List.count_pos_iff,count_kept]
    by_cases known : declaration.Declares target
    · simp [known]
    · simp [known,List.countP_pos_iff]

/-- A chart is refused with all of its problems, and there are some. -/
theorem build_eq_error_iff : declaration.build = .error reported ↔ reported = declaration.problems ∧ reported ≠ [] := by
  have complete : declaration.problems = [] → declaration.initial.isSome ∧ declaration.context.isSome := by
    intro none
    have reports := declaration.problems_reports
    have initial := reports.missingInitialState
    have context := reports.missingContext
    rw [none] at initial context
    constructor
    · cases given : declaration.initial with
      | none => rw [given] at initial; cases initial
      | some _ => rfl
    · cases given : declaration.context with
      | none => rw [given] at context; cases context
      | some _ => rfl
  rw [build]
  split
  · rename_i none _ _
    rw [none]
    exact ⟨nofun,fun ⟨same,present⟩ => absurd same present⟩
  · rename_i refused
    constructor
    · intro same
      cases same
      refine ⟨rfl,fun none => ?_⟩
      obtain ⟨initial,context⟩ := complete none
      obtain ⟨initial,given⟩ := Option.isSome_iff_exists.mp initial
      obtain ⟨context,shown⟩ := Option.isSome_iff_exists.mp context
      exact refused initial context none given shown
    · rintro ⟨rfl,_⟩
      rfl

theorem kept_of_given {state : M.State} {transition : Transition M} (member : transition ∈ declaration.kept state) :
    transition ∈ declaration.given state := by
  obtain ⟨last,final,own⟩ := List.mem_flatMap.mp member
  have among := List.mem_of_getLast? (Option.mem_toList.mp final)
  exact List.mem_flatMap.mpr ⟨last,among,last.given_of_kept own⟩

/-- A chart that is refused is refused with its problems, each as often as there is reason for it: what is missing,
services and delays that are too many, states that are declared again, an initial state or a target that is not
declared. Of the targets this is so for the transitions that count, and for all that were given just if none that
does not count hides one. -/
theorem every_problem (refused : declaration.build = .error reported) :
    declaration.Reports declaration.kept reported ∧
    (∀ source target, reported.count (.unknownTarget source target) =
      if declaration.Declares target then 0
      else (declaration.kept source).countP fun transition => transition.target = some target) ∧
    (declaration.Reports declaration.given reported ↔ declaration.Unhidden) := by
  obtain ⟨rfl,_⟩ := build_eq_error_iff.mp refused
  have reports := declaration.problems_reports
  refine ⟨reports,declaration.count_kept,?_⟩
  constructor
  · intro all source transition given target points unknown
    exact ((reports.unknownTarget source target).mp
      ((all.unknownTarget source target).mpr ⟨unknown,transition,given,points⟩)).2
  · intro unhidden
    refine { reports with unknownTarget := fun source target => (reports.unknownTarget source target).trans ?_ }
    refine and_congr_right fun unknown => ⟨?_,?_⟩
    · rintro ⟨transition,kept,points⟩
      exact ⟨transition,kept_of_given kept,points⟩
    · rintro ⟨transition,given,points⟩
      exact unhidden source transition given target points unknown

/-- Much is wrong with this one: its first state is declared again, and it has one service too many. -/
def muddle : Declaration Bench.machine where
  initial := some .c
  context := none
  states := [
    ⟨.a,[
      .invoke ⟨"first",⟨"first",none,none,none,none⟩,[⟨none,[],some .b⟩],[]⟩,
      .invoke ⟨"second",⟨"second",none,none,none,none⟩,[⟨none,[],some .b⟩],[]⟩]⟩,
    ⟨.a,[.on .go ⟨none,[],some .b⟩]⟩]

theorem muddle_every_problem :
    muddle.build = .error [.missingContext,.multipleServices .a,.duplicateState .a,.unknownInitialState .c,.unknownTarget .a .b] ∧
    muddle.Reports muddle.given
      [.missingContext,.multipleServices .a,.duplicateState .a,.unknownInitialState .c,.unknownTarget .a .b] := by
  have refused : muddle.build =
      .error [.missingContext,.multipleServices .a,.duplicateState .a,.unknownInitialState .c,.unknownTarget .a .b] := by
    have targets : unknownTargets muddle.nodes = [.unknownTarget .a .b] := rfl
    have all : muddle.problems = _ := muddle.problems_eq
    rw [targets,List.mergeSort_singleton] at all
    exact build_eq_error_iff.mpr ⟨all.symm,by simp⟩
  have unhidden : muddle.Unhidden := by
    intro source transition given target points _
    cases source with
    | a =>
      have all : ∀ transition ∈ muddle.given .a, transition.target = some .b := by decide
      exact ⟨⟨none,[],some .b⟩,List.mem_singleton_self _,(all transition given).symm.trans points⟩
    | _ => cases given
  obtain ⟨_,_,all⟩ := every_problem refused
  exact ⟨refused,all.mpr unhidden⟩

/-- Only the service that is refused points at a state that is not declared. -/
def hideout : Declaration Bench.machine where
  initial := some .a
  context := some {}
  states := [
    ⟨.a,[
      .invoke ⟨"first",⟨"first",none,none,none,none⟩,[],[]⟩,
      .invoke ⟨"second",⟨"second",none,none,none,none⟩,[⟨none,[],some .b⟩],[]⟩]⟩]

theorem hideout_unreported :
    hideout.build = .error [.multipleServices .a] ∧ ¬ hideout.Reports hideout.given [.multipleServices .a] := by
  have targets : unknownTargets hideout.nodes = [] := rfl
  have found : hideout.problems = _ := hideout.problems_eq
  rw [targets,List.mergeSort_nil] at found
  refine ⟨build_eq_error_iff.mpr ⟨found.symm,by simp⟩,fun all => ?_⟩
  have reported := (all.unknownTarget .a .b).mpr ⟨by decide,⟨none,[],some .b⟩,List.mem_singleton_self _,rfl⟩
  simp at reported

end Declaration

end Statechart
