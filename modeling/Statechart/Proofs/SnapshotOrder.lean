import Mathlib.Data.List.Permutation
import Statechart.Bench.Vocabulary
import Statechart.Proofs.Deliveries

/-!
# The order in which listeners hear of snapshots

A listener that reacts to a snapshot may stop the interpreter, and the stop is told to everyone before
the listeners after it have heard of that snapshot. A listener that is not overtaken so hears every
snapshot in the order of their production and nothing after a final one; one that is overtaken hears
the last two of them the wrong way round (`snapshots_in_order`).
-/
namespace Statechart

variable {M : Machine} {graph : Graph M} {options : Options}

/-- The snapshots that a listener was called with. -/
def heardBy (number : Nat) (log : List (Note M)) : List (Snapshot M.State M.Context) :=
  log.filterMap fun
    | .produced _ _ => none
    | .heard other snapshot => if other = number then some snapshot else none

/-- The snapshots that were produced while a listener was registered. -/
def producedFor (number : Nat) (log : List (Note M)) : List (Snapshot M.State M.Context) :=
  log.filterMap fun
    | .produced snapshot numbers => if number ∈ numbers then some snapshot else none
    | .heard _ _ => none

/-- A snapshot was produced for a listener that had not heard of all the earlier ones yet. -/
def Overtaken (number : Nat) (log : List (Note M)) : Prop :=
  ∃ before snapshot numbers after, log = before ++ .produced snapshot numbers :: after ∧ number ∈ numbers ∧
    heardBy number before ≠ producedFor number before

/-- A snapshot that is meant to be the last one. -/
def Snapshot.IsFinal {S C : Type} (snapshot : Snapshot S C) : Prop :=
  snapshot.status = .stopped ∨ snapshot.status = .failed

/-- A run with the notes on it. Where there are several callers, no start fails while somebody is still
told of a stop: it would take back a stop that listeners are hearing of. -/
inductive Gathering.Chronicle (graph : Graph M) (options : Options) : List (Note M) → Gathering M → Prop where
  | fresh : Chronicle graph options [] (.fresh graph options)
  | onward {log : List (Note M)} {deed : Deed M} {here next : Gathering M} :
      Chronicle graph options log here → here.Moves deed next →
        (next.self.core.status = .notStarted → next.waiting ≠ [] →
          ∀ delivery ∈ next.circulation.deliveries, delivery.sequel.isFarewell = false) →
        Chronicle graph options (log ++ here.self.notes next.self deed) next

theorem Gathering.Chronicle.tidy {log : List (Note M)} {here : Gathering M}
    (chronicle : here.Chronicle graph options log) : Tidy graph options here := by
  induction chronicle with
  | fresh => exact Tidy.fresh graph options
  | onward _ moves patient ih => exact moves.tidy ih patient

/-! ## What is heard and what is still owed -/

/-- The snapshots that deliveries in progress have still to tell a listener. -/
def owed (number : Nat) (deliveries : List (Delivery M)) : List (Snapshot M.State M.Context) :=
  deliveries.filterMap fun delivery =>
    if number ∈ delivery.unheard.tail.map Prod.fst then some delivery.snapshot else none

section

variable (number : Nat)

theorem heardBy_append (log more : List (Note M)) :
    heardBy number (log ++ more) = heardBy number log ++ heardBy number more := List.filterMap_append

theorem producedFor_append (log more : List (Note M)) :
    producedFor number (log ++ more) = producedFor number log ++ producedFor number more := List.filterMap_append

@[simp] theorem producedFor_calls (snapshot : Snapshot M.State M.Context) (unheard : List (Nat × M.Listener)) :
    producedFor number (calls snapshot unheard) = [] := by
  cases unheard <;> rfl

theorem producedFor_production (snapshot : Snapshot M.State M.Context) (numbers : List Nat)
    (unheard : List (Nat × M.Listener)) :
    producedFor number (.produced snapshot numbers :: calls snapshot unheard) =
      if number ∈ numbers then [snapshot] else [] := by
  rw [← List.singleton_append,producedFor_append,producedFor_calls]
  by_cases member : number ∈ numbers
  · simp [producedFor,member]
  · simp [producedFor,member]

theorem overtaken_snoc (log : List (Note M)) (note : Note M) :
    Overtaken number (log ++ [note]) ↔ Overtaken number log ∨
      ∃ snapshot numbers, note = .produced snapshot numbers ∧ number ∈ numbers ∧
        heardBy number log ≠ producedFor number log := by
  constructor
  · rintro ⟨before,snapshot,numbers,after,split,member,behind⟩
    rcases List.eq_nil_or_concat after with none | ⟨earlier,last,some⟩
    · rw [none] at split
      obtain ⟨same,noted⟩ := List.append_inj' split rfl
      subst same
      exact .inr ⟨snapshot,numbers,(List.cons.inj noted).1,member,behind⟩
    · have whole : log ++ [note] = (before ++ .produced snapshot numbers :: earlier) ++ [last] := by
        simpa [some] using split
      obtain ⟨same,_⟩ := List.append_inj' whole rfl
      exact .inl ⟨before,snapshot,numbers,earlier,same,member,behind⟩
  · rintro (⟨before,snapshot,numbers,after,split,member,behind⟩ | ⟨snapshot,numbers,noted,member,behind⟩)
    · exact ⟨before,snapshot,numbers,after ++ [note],by simp [split],member,behind⟩
    · exact ⟨log,snapshot,numbers,[],by rw [noted],member,behind⟩

theorem overtaken_calls (log : List (Note M)) (snapshot : Snapshot M.State M.Context)
    (unheard : List (Nat × M.Listener)) :
    Overtaken number (log ++ calls snapshot unheard) ↔ Overtaken number log := by
  cases unheard with
  | nil => simp [calls]
  | cons entry rest => simp [calls,overtaken_snoc]

theorem overtaken_production (log : List (Note M)) (snapshot : Snapshot M.State M.Context) (numbers : List Nat)
    (unheard : List (Nat × M.Listener)) :
    Overtaken number (log ++ .produced snapshot numbers :: calls snapshot unheard) ↔
      Overtaken number log ∨ number ∈ numbers ∧ heardBy number log ≠ producedFor number log := by
  rw [List.append_cons,overtaken_calls,overtaken_snoc]
  constructor
  · rintro (already | ⟨_,_,noted,member,behind⟩)
    · exact .inl already
    · cases noted
      exact .inr ⟨member,behind⟩
  · rintro (already | ⟨member,behind⟩)
    · exact .inl already
    · exact .inr ⟨snapshot,numbers,rfl,member,behind⟩

end

theorem owed_cons (number : Nat) (delivery : Delivery M) (rest : List (Delivery M)) :
    owed number (delivery :: rest) =
      (if number ∈ delivery.unheard.tail.map Prod.fst then [delivery.snapshot] else []) ++ owed number rest := by
  by_cases member : number ∈ delivery.unheard.tail.map Prod.fst
  · rw [owed,List.filterMap_cons,if_pos member,if_pos member]
    rfl
  · rw [owed,List.filterMap_cons,if_neg member,if_neg member]
    rfl

/-- Of those who are still to hear of a snapshot, the first one is called and the others are owed it. -/
theorem heard_or_owed (number : Nat) (snapshot : Snapshot M.State M.Context) {unheard : List (Nat × M.Listener)}
    (distinct : (unheard.map Prod.fst).Nodup) :
    heardBy number (calls snapshot unheard) ++ (if number ∈ unheard.tail.map Prod.fst then [snapshot] else []) =
      if number ∈ unheard.map Prod.fst then [snapshot] else [] := by
  cases unheard with
  | nil => rfl
  | cons first rest =>
    have other : first.1 ∉ rest.map Prod.fst := (List.nodup_cons.mp distinct).1
    by_cases called : first.1 = number
    · rw [← called,List.tail_cons,if_neg other,if_pos (by simp)]
      simp [heardBy,calls]
    · by_cases later : number ∈ rest.map Prod.fst
      · rw [List.map_cons,List.tail_cons,if_pos later,if_pos (List.mem_cons_of_mem _ later)]
        simp [heardBy,calls,called]
      · rw [List.map_cons,List.tail_cons,if_neg later,if_neg (by simp [Ne.symm called,later])]
        simp [heardBy,calls,called]

namespace Circulation

/-- Without a production, whatever is heard has been owed. -/
theorem Step.conserves {before after : Circulation M} {notes : List (Note M)} (step : before.Step notes after)
    (orderly : before.Orderly) (number : Nat) :
    heardBy number notes ++ owed number after.deliveries = owed number before.deliveries ∧
      producedFor number notes = [] := by
  cases step with
  | still => exact ⟨rfl,rfl⟩
  | subscribe _ => exact ⟨rfl,rfl⟩
  | unsubscribe _ => exact ⟨rfl,rfl⟩
  | told =>
    refine ⟨?_,producedFor_calls _ _ _⟩
    have distinct := (orderly.once _ List.mem_cons_self).of_cons
    rw [owed_cons,owed_cons,← List.append_assoc,heard_or_owed number _ distinct]
    rfl
  | done _ => exact ⟨rfl,rfl⟩
  | released _ => exact ⟨rfl,rfl⟩

/-- What is produced for a listener is heard at once or owed. -/
theorem Orderly.conserves {circulation : Circulation M} (orderly : circulation.Orderly)
    (snapshot : Snapshot M.State M.Context) (sequel : Sequel) (number : Nat) :
    heardBy number (calls snapshot circulation.registry.entries) ++
        owed number (circulation.publish snapshot sequel).deliveries =
      (if number ∈ circulation.registry.numbers then [snapshot] else []) ++ owed number circulation.deliveries := by
  have distinct : (circulation.registry.entries.map Prod.fst).Nodup := orderly.distinct
  rw [Circulation.publish,owed_cons,← List.append_assoc,heard_or_owed number _ distinct]
  rfl

theorem Step.overtaken {before after : Circulation M} {notes : List (Note M)} (step : before.Step notes after)
    (number : Nat) (log : List (Note M)) : Overtaken number (log ++ notes) ↔ Overtaken number log := by
  cases step with
  | told => exact overtaken_calls _ _ _ _
  | _ => rw [List.append_nil]

theorem Step.next_le {before after : Circulation M} {notes : List (Note M)} (step : before.Step notes after) :
    before.registry.next ≤ after.registry.next := by
  cases step with
  | subscribe _ => exact Nat.le_succ _
  | _ => exact Nat.le_refl _

/-- Nothing more is produced for a listener: everyone is being released, or it is not registered any
more. -/
def Sealed (circulation : Circulation M) (number : Nat) : Prop :=
  (∃ delivery ∈ circulation.deliveries, delivery.sequel.isFarewell = true) ∨
    number ∉ circulation.registry.numbers

theorem Step.sealed {before after : Circulation M} {notes : List (Note M)} (step : before.Step notes after)
    {number : Nat} (known : number < before.registry.next) (shut : before.Sealed number) : after.Sealed number := by
  cases step with
  | still => exact shut
  | @subscribe registry _ listener =>
    rcases shut with parting | gone
    · exact .inl parting
    · right
      have numbers : (registry.add listener).2.numbers = registry.numbers ++ [registry.next] := by
        simp [Registry.add,Registry.numbers]
      simp only [numbers,List.mem_append,List.mem_singleton,not_or]
      exact ⟨gone,Nat.ne_of_lt known⟩
  | @unsubscribe registry _ other =>
    rcases shut with parting | gone
    · exact .inl parting
    · have fewer : (registry.remove other).numbers.Sublist registry.numbers := List.filter_sublist.map _
      exact .inr fun member => gone (fewer.subset member)
  | told =>
    rcases shut with ⟨delivery,member,farewell⟩ | gone
    · rcases List.mem_cons.mp member with same | later
      · subst same
        exact .inl ⟨_,List.mem_cons_self,farewell⟩
      · exact .inl ⟨delivery,List.mem_cons_of_mem _ later,farewell⟩
    · exact .inr gone
  | done more =>
    rcases shut with ⟨delivery,member,farewell⟩ | gone
    · rcases List.mem_cons.mp member with same | later
      · subst same
        rw [more] at farewell
        cases farewell
      · exact .inl ⟨delivery,later,farewell⟩
    · exact .inr gone
  | released _ =>
    right
    intro member
    cases member

end Circulation

/-! ## A listener that is not overtaken -/

/-- As long as a listener is not overtaken, it has heard of every snapshot for it in order, except perhaps
of the last one. -/
structure InOrder (number : Nat) (log : List (Note M)) (circulation : Circulation M) : Prop where
  orderly : circulation.Orderly
  order : ¬ Overtaken number log →
    producedFor number log = heardBy number log ++ owed number circulation.deliveries ∧
      (owed number circulation.deliveries).length ≤ 1

namespace InOrder

variable {number : Nat} {log : List (Note M)} {before after : Circulation M}

theorem fresh (graph : Graph M) (options : Options) (number : Nat) :
    InOrder number [] (Gathering.fresh graph options).circulation :=
  ⟨(Tidy.fresh graph options).orderly,fun _ => ⟨rfl,Nat.zero_le _⟩⟩

theorem step (inOrder : InOrder number log before) {notes : List (Note M)} (step : before.Step notes after) :
    InOrder number (log ++ notes) after := by
  obtain ⟨conserves,nothing⟩ := step.conserves inOrder.orderly number
  refine ⟨step.orderly inOrder.orderly,?_⟩
  intro free
  rw [step.overtaken number log] at free
  obtain ⟨order,few⟩ := inOrder.order free
  rw [← conserves] at order few
  constructor
  · rw [producedFor_append,nothing,List.append_nil,heardBy_append,List.append_assoc]
    exact order
  · rw [List.length_append] at few
    omega

theorem produced (inOrder : InOrder number log before) (snapshot : Snapshot M.State M.Context) (sequel : Sequel) :
    InOrder number
      (log ++ .produced snapshot before.registry.numbers :: calls snapshot before.registry.entries)
      (before.publish snapshot sequel) := by
  have conserves := inOrder.orderly.conserves snapshot sequel number
  have heard := heardBy_append number log
    (.produced snapshot before.registry.numbers :: calls snapshot before.registry.entries)
  have told : heardBy number (.produced snapshot before.registry.numbers :: calls snapshot before.registry.entries) =
      heardBy number (calls snapshot before.registry.entries) := rfl
  refine ⟨inOrder.orderly.publish snapshot sequel,?_⟩
  intro free
  rw [overtaken_production,not_or,not_and] at free
  obtain ⟨order,few⟩ := inOrder.order free.1
  rw [producedFor_append,producedFor_production,heard,told,List.append_assoc,conserves]
  by_cases registered : number ∈ before.registry.numbers
  · have current : heardBy number log = producedFor number log := not_not.mp (free.2 registered)
    have none : owed number before.deliveries = [] := by
      rw [← current] at order
      simpa using order
    rw [if_pos registered,none,List.append_nil] at conserves ⊢
    have total := congrArg List.length conserves
    rw [List.length_append,List.length_singleton] at total
    exact ⟨by rw [current],by omega⟩
  · rw [if_neg registered,List.nil_append] at conserves ⊢
    rw [← conserves,List.length_append] at few
    exact ⟨by rw [List.append_nil,order],by omega⟩

theorem rearranged (inOrder : InOrder number log before) (shuffled : after.deliveries.Perm before.deliveries)
    (same : after.registry = before.registry) : InOrder number log after := by
  have owing : (owed number after.deliveries).Perm (owed number before.deliveries) := shuffled.filterMap _
  obtain ⟨distinct,known,once⟩ := inOrder.orderly
  refine ⟨⟨by rw [same]; exact distinct,by rw [same]; exact known,?_⟩,?_⟩
  · intro delivery member
    exact once delivery (shuffled.mem_iff.mp member)
  · intro free
    obtain ⟨order,few⟩ := inOrder.order free
    rw [eq_of_perm_of_length_le_one owing few]
    exact ⟨order,few⟩

end InOrder

namespace Gathering

theorem Moves.inOrder {here next : Gathering M} {deed : Deed M} {log : List (Note M)} {number : Nat}
    (moves : here.Moves deed next) (inOrder : InOrder number log here.circulation) :
    InOrder number (log ++ here.self.notes next.self deed) next.circulation := by
  cases moves with
  | @turn self _ _ waiting turn =>
    rcases turn.circulates waiting.flatten with step | ⟨snapshot,sequel,_,same,noted,_⟩
    · exact inOrder.step step
    · rw [circulation,same,noted]
      exact inOrder.produced snapshot sequel
  | back =>
    rw [Interpreter.notes,List.append_nil]
    exact inOrder.rearranged ((back_perm _ _ _ _).filterMap _) rfl
  | join =>
    rw [Interpreter.notes,List.append_nil]
    exact inOrder.rearranged (List.Perm.refl _) rfl

theorem Path.inOrder {here : Gathering M} {deeds : List (Deed M)} {log : List (Note M)}
    (path : (fresh graph options).Path deeds log here) (number : Nat) : InOrder number log here.circulation := by
  induction path with
  | here => exact InOrder.fresh graph options number
  | onward _ moves ih => exact moves.inOrder ih

end Gathering

/-! ## A listener that is overtaken -/

/-- The last two snapshots for a listener reach it the wrong way round, or might do so: of several
callers the one that is told of the earlier snapshot may go on first. -/
def Crossed (number : Nat) (log : List (Note M)) (circulation : Circulation M) (waiting : List (List (Frame M))) :
    Prop :=
  ∃ earlier older final late, producedFor number log = earlier ++ [older,final] ∧ ¬ older.IsFinal ∧
    final.status = .stopped ∧ heardBy number log = earlier ++ late ∧
    (late ++ owed number circulation.deliveries).Perm [older,final] ∧
    (waiting = [] → late ++ owed number circulation.deliveries = [final,older])

/-- What holds of a listener as long as no start takes back a stop. -/
structure Followed (number : Nat) (log : List (Note M)) (circulation : Circulation M)
    (waiting : List (List (Frame M))) : Prop where
  known : producedFor number log ≠ [] → number < circulation.registry.next
  shut : ∀ snapshot ∈ producedFor number log, snapshot.IsFinal → circulation.Sealed number
  last : ∀ before final after, producedFor number log = before ++ final :: after → final.IsFinal → after = []
  crossed : Overtaken number log → Crossed number log circulation waiting

namespace Followed

variable {number : Nat} {log : List (Note M)} {before after : Circulation M} {waiting : List (List (Frame M))}

/-- Nothing is produced for the listener, and whatever it hears has been owed to it. -/
theorem quiet (followed : Followed number log before waiting) {notes : List (Note M)}
    (conserves : heardBy number notes ++ owed number after.deliveries = owed number before.deliveries)
    (nothing : producedFor number notes = []) (same : Overtaken number (log ++ notes) ↔ Overtaken number log)
    (older : before.registry.next ≤ after.registry.next)
    (shut : number < before.registry.next → before.Sealed number → after.Sealed number) :
    Followed number (log ++ notes) after waiting := by
  have produced : producedFor number (log ++ notes) = producedFor number log := by
    rw [producedFor_append,nothing,List.append_nil]
  refine ⟨?_,?_,?_,?_⟩
  · intro some
    rw [produced] at some
    exact Nat.lt_of_lt_of_le (followed.known some) older
  · intro snapshot member final
    rw [produced] at member
    exact shut (followed.known (List.ne_nil_of_mem member)) (followed.shut snapshot member final)
  · rw [produced]
    exact followed.last
  · intro past
    obtain ⟨earlier,older,final,late,pair,alive,stopped,told,some,crossed⟩ := followed.crossed (same.mp past)
    refine ⟨earlier,older,final,late ++ heardBy number notes,?_,alive,stopped,?_,?_,?_⟩
    · rw [produced,pair]
    · rw [heardBy_append,told,List.append_assoc]
    · rw [List.append_assoc,conserves]
      exact some
    · rw [List.append_assoc,conserves]
      exact crossed

/-- It does not matter which of several callers has its turn. -/
theorem rearranged (followed : Followed number log before waiting) {others : List (List (Frame M))}
    (shuffled : after.deliveries.Perm before.deliveries) (same : after.registry = before.registry)
    (several : others ≠ []) : Followed number log after others := by
  have owing : (owed number after.deliveries).Perm (owed number before.deliveries) := shuffled.filterMap _
  refine ⟨?_,?_,followed.last,?_⟩
  · rw [same]
    exact followed.known
  · intro snapshot member final
    rcases followed.shut snapshot member final with ⟨delivery,among,farewell⟩ | gone
    · exact .inl ⟨delivery,shuffled.mem_iff.mpr among,farewell⟩
    · right
      rw [same]
      exact gone
  · intro past
    obtain ⟨earlier,older,final,late,pair,alive,stopped,told,some,_⟩ := followed.crossed past
    refine ⟨earlier,older,final,late,pair,alive,stopped,told,?_,?_⟩
    · exact (owing.append_left late).trans some
    · intro none
      exact absurd none several

/-- Where the listener is still owed an earlier snapshot, a new one overtakes it. -/
theorem overtakes (followed : Followed number log before waiting) (inOrder : InOrder number log before)
    (registered : number ∈ before.registry.numbers) {snapshot : Snapshot M.State M.Context} {sequel : Sequel}
    (alive : ∀ earlier ∈ producedFor number log, ¬ earlier.IsFinal)
    (cause : before.deliveries = [] ∨ snapshot.status = .stopped)
    (past : Overtaken number
      (log ++ .produced snapshot before.registry.numbers :: calls snapshot before.registry.entries)) :
    Crossed number (log ++ .produced snapshot before.registry.numbers :: calls snapshot before.registry.entries)
      (before.publish snapshot sequel) waiting := by
  have conserves := inOrder.orderly.conserves snapshot sequel number
  rw [if_pos registered] at conserves
  rw [overtaken_production] at past
  have free : ¬ Overtaken number log := by
    intro already
    obtain ⟨_,_,_,_,pair,_,stopped,_⟩ := followed.crossed already
    exact alive _ (by rw [pair]; simp) (.inl stopped)
  obtain ⟨order,few⟩ := inOrder.order free
  obtain ⟨_,behind⟩ := past.resolve_left free
  cases debt : owed number before.deliveries with
  | nil =>
    rw [debt,List.append_nil] at order
    exact absurd order.symm behind
  | cons older rest =>
    have alone : rest = [] := by
      rw [debt,List.length_cons] at few
      exact List.length_eq_zero_iff.mp (by omega)
    subst alone
    rw [debt] at order conserves
    have busy : before.deliveries ≠ [] := by
      intro none
      rw [none] at debt
      cases debt
    refine ⟨heardBy number log,older,snapshot,heardBy number (calls snapshot before.registry.entries),
      ?_,?_,?_,heardBy_append number log _,?_,?_⟩
    · rw [producedFor_append,producedFor_production,if_pos registered,order,List.append_assoc]
      rfl
    · exact alive older (by simp [order])
    · exact cause.resolve_left busy
    · rw [conserves]
      exact List.Perm.swap _ _ _
    · intro _
      rw [conserves]
      rfl

/-- A snapshot is produced, while nobody is told of an end yet. -/
theorem produced (followed : Followed number log before waiting) (inOrder : InOrder number log before)
    {snapshot : Snapshot M.State M.Context} {sequel : Sequel}
    (unparted : ∀ delivery ∈ before.deliveries, delivery.sequel.isFarewell = false)
    (parting : snapshot.IsFinal → sequel.isFarewell = true)
    (cause : before.deliveries = [] ∨ snapshot.status = .stopped) :
    Followed number (log ++ .produced snapshot before.registry.numbers :: calls snapshot before.registry.entries)
      (before.publish snapshot sequel) waiting := by
  have news := producedFor_append number log
    (.produced snapshot before.registry.numbers :: calls snapshot before.registry.entries)
  by_cases registered : number ∈ before.registry.numbers
  · rw [producedFor_production,if_pos registered] at news
    have unsealed : ¬ before.Sealed number := by
      rintro (⟨delivery,member,farewell⟩ | gone)
      · rw [unparted delivery member] at farewell
        cases farewell
      · exact gone registered
    have alive : ∀ earlier ∈ producedFor number log, ¬ earlier.IsFinal := fun earlier member final =>
      unsealed (followed.shut earlier member final)
    refine ⟨fun _ => inOrder.orderly.known number registered,?_,?_,?_⟩
    · intro latest member final
      rw [news] at member
      rcases List.mem_append.mp member with earlier | same
      · exact absurd final (alive latest earlier)
      · rw [List.mem_singleton.mp same] at final
        exact .inl ⟨_,List.mem_cons_self,parting final⟩
    · intro front final back split isFinal
      rw [news] at split
      rcases List.eq_nil_or_concat back with none | ⟨rest,latest,some⟩
      · exact none
      · have whole : producedFor number log ++ [snapshot] = (front ++ final :: rest) ++ [latest] := by
          simpa [some] using split
        obtain ⟨same,_⟩ := List.append_inj' whole rfl
        exact absurd isFinal (alive final (by simp [same]))
    · exact followed.overtakes inOrder registered alive cause
  · rw [producedFor_production,if_neg registered] at news
    have conserves := inOrder.orderly.conserves snapshot sequel number
    rw [if_neg registered,List.nil_append] at conserves
    apply followed.quiet
    · exact conserves
    · rw [producedFor_production,if_neg registered]
    · rw [overtaken_production]
      exact ⟨fun past => past.resolve_right fun behind => registered behind.1,.inl⟩
    · exact Nat.le_refl _
    · rintro _ (⟨delivery,member,farewell⟩ | gone)
      · exact .inl ⟨delivery,List.mem_cons_of_mem _ member,farewell⟩
      · exact .inr gone

theorem fresh (graph : Graph M) (options : Options) (number : Nat) :
    Followed number [] (Gathering.fresh graph options).circulation [] := by
  refine ⟨fun some => absurd rfl some,?_,?_,?_⟩
  · intro snapshot member
    cases member
  · intro before final after split
    simp [producedFor] at split
  · rintro ⟨before,snapshot,numbers,after,split,_⟩
    simp at split

end Followed

/-- Only a stop is produced while a delivery is in progress. -/
theorem Tidy.cause {here : Gathering M} (tidy : Tidy graph options here) {deed : Deed M}
    {snapshot : Snapshot M.State M.Context} {sequel : Sequel} (produces : here.self.Produces deed snapshot sequel) :
    here.circulation.deliveries = [] ∨ snapshot.status = .stopped := by
  cases produces with
  | commit top macrostep running _ _ => exact .inl (tidy.silent top macrostep running)
  | fault top macrostep running _ => exact .inl (tidy.silent top macrostep running)
  | stop _ _ stopped => exact .inr stopped

theorem Interpreter.Produces.parting {self : Interpreter M} {deed : Deed M} {snapshot : Snapshot M.State M.Context}
    {sequel : Sequel} (produces : self.Produces deed snapshot sequel) (final : snapshot.IsFinal) :
    sequel.isFarewell = true := by
  cases produces with
  | commit _ _ _ alive _ =>
    rcases final with past | past
    · rw [past] at alive; simp at alive
    · rw [past] at alive; simp at alive
  | fault _ _ _ _ => rfl
  | stop _ _ _ => rfl

namespace Gathering

theorem Moves.followed {here next : Gathering M} {deed : Deed M} {log : List (Note M)} {number : Nat}
    (moves : here.Moves deed next) (tidy : Tidy graph options here) (inOrder : InOrder number log here.circulation)
    (followed : Followed number log here.circulation here.waiting) :
    Followed number (log ++ here.self.notes next.self deed) next.circulation next.waiting := by
  cases moves with
  | @turn self _ _ waiting turn =>
    rcases turn.circulates waiting.flatten with step | ⟨snapshot,sequel,produces,same,noted,_⟩
    · obtain ⟨conserves,nothing⟩ := step.conserves tidy.orderly number
      exact followed.quiet conserves nothing (step.overtaken number log) step.next_le step.sealed
    · have goes := followed.produced inOrder (tidy.no_farewell produces) produces.parting (tidy.cause produces)
      simp only [circulation] at goes ⊢
      rw [same,noted]
      exact goes
  | back =>
    rw [Interpreter.notes,List.append_nil]
    refine followed.rearranged ?_ rfl (by simp)
    exact (back_perm _ _ _ _).filterMap _
  | join =>
    rw [Interpreter.notes,List.append_nil]
    exact followed.rearranged (List.Perm.refl _) rfl (by simp)

theorem Chronicle.path {log : List (Note M)} {here : Gathering M} (chronicle : here.Chronicle graph options log) :
    ∃ deeds, (Gathering.fresh graph options).Path deeds log here := by
  induction chronicle with
  | fresh => exact ⟨[],.here⟩
  | onward _ moves _ ih =>
    obtain ⟨deeds,path⟩ := ih
    exact ⟨_,path.onward moves⟩

theorem Chronicle.followed {log : List (Note M)} {here : Gathering M} (chronicle : here.Chronicle graph options log)
    (number : Nat) : Followed number log here.circulation here.waiting := by
  induction chronicle with
  | fresh => exact Followed.fresh graph options number
  | onward before moves _ ih =>
    obtain ⟨deeds,path⟩ := before.path
    exact moves.followed before.tidy (path.inOrder number) ih

/-- Whatever the callers do, a listener that is not overtaken hears the snapshots in the order of their
production. As long as no start takes back a stop that is being told, it hears nothing after a final one,
and a listener can only be overtaken by a stop: it hears of the stop and of the snapshot before it the
wrong way round, for sure where there is one caller. -/
theorem snapshots_in_order {deeds : List (Deed M)} {log : List (Note M)} {here : Gathering M}
    (path : (fresh graph options).Path deeds log here) (number : Nat) :
    (¬ Overtaken number log →
      heardBy number log <+: producedFor number log ∧
      (here.frames = [] → heardBy number log = producedFor number log)) ∧
    (here.Chronicle graph options log →
      (¬ Overtaken number log →
        ∀ before final after, heardBy number log = before ++ final :: after → final.IsFinal → after = []) ∧
      (Overtaken number log →
        ∃ earlier older final, producedFor number log = earlier ++ [older,final] ∧
          ¬ older.IsFinal ∧ final.status = .stopped ∧
          (heardBy number log <+: earlier ++ [older,final] ∨ heardBy number log <+: earlier ++ [final,older]) ∧
          (here.waiting = [] → heardBy number log <+: earlier ++ [final,older] ∧
            (here.self.stack = [] → heardBy number log = earlier ++ [final,older])))) := by
  have inOrder := path.inOrder number
  refine ⟨?_,?_⟩
  · intro free
    obtain ⟨order,_⟩ := inOrder.order free
    refine ⟨⟨_,order.symm⟩,?_⟩
    intro idle
    have nothing : here.circulation.deliveries = [] := congrArg deliveries idle
    rw [order,nothing]
    simp [owed]
  · intro chronicle
    have followed := chronicle.followed number
    constructor
    · intro free before final after heard isFinal
      obtain ⟨order,_⟩ := inOrder.order free
      rw [heard,List.append_assoc] at order
      have none := followed.last _ _ _ order isFinal
      exact (List.append_eq_nil_iff.mp none).1
    · intro past
      obtain ⟨earlier,older,final,late,pair,alive,stopped,heard,some,crossed⟩ := followed.crossed past
      refine ⟨earlier,older,final,pair,alive,stopped,?_,?_⟩
      · rw [heard]
        rcases List.perm_pair.mp some with straight | swapped
        · left
          rw [← straight,← List.append_assoc]
          exact List.prefix_append _ _
        · right
          rw [← swapped,← List.append_assoc]
          exact List.prefix_append _ _
      · intro single
        have order := crossed single
        rw [heard,← order,← List.append_assoc]
        refine ⟨List.prefix_append _ _,?_⟩
        intro idle
        have nothing : here.circulation.deliveries = [] := by
          rw [circulation,Interpreter.circulation,idle,single]
          rfl
        rw [nothing]
        simp [owed]

/-- A chart that does nothing. -/
def lamp : Graph Bench.machine := ⟨"lamp",.a,{},[.empty .a]⟩

/-- The first of two listeners stops the lamp as soon as it hears of it; the second one hears of the
stop first. -/
def lampLog : List (Note Bench.machine) := [
  .produced ⟨.a,{},.running⟩ [0,1],
  .heard 0 ⟨.a,{},.running⟩,
  .produced ⟨.a,{},.stopped⟩ [0,1],
  .heard 0 ⟨.a,{},.stopped⟩,
  .heard 1 ⟨.a,{},.stopped⟩,
  .heard 1 ⟨.a,{},.running⟩]

theorem lamp_runs : ∃ here, Chronicle lamp {} lampLog here ∧ here.waiting = [] ∧ here.self.stack = [] := by
  have alone : ∀ {status : Status} {rest : List (Delivery Bench.machine)}, status = .notStarted →
      ([] : List (List (Frame Bench.machine))) ≠ [] → ∀ delivery ∈ rest, delivery.sequel.isFarewell = false :=
    fun _ several => absurd rfl several
  have made : Chronicle lamp {} [] _ := .fresh
  have first := made.onward (.turn (.subscribe (Bench.Listener.mk 0 "p" {} [.stop] 1))) alone
  have second := first.onward (.turn (.subscribe (Bench.Listener.mk 1 "q" {} [] 1))) alone
  have started := second.onward (.turn (.start true)) alone
  have committed := started.onward (.turn (.go rfl)) alone
  have stopped := committed.onward (.turn .stop) alone
  have told := stopped.onward (.turn (.told rfl)) alone
  have told := told.onward (.turn (.told rfl)) alone
  have released := told.onward (.turn (.go rfl)) alone
  have told := released.onward (.turn (.told rfl)) alone
  have told := told.onward (.turn (.told rfl)) alone
  have heard := told.onward (.turn (.go rfl)) alone
  have drained := heard.onward (.turn (.go rfl)) alone
  exact ⟨_,drained,rfl,rfl⟩

theorem lamp_not_overtaken : ¬ Overtaken 0 lampLog := by
  have steps : lampLog = [] ++ [_] ++ [_] ++ [_] ++ [_] ++ [_] ++ [_] := rfl
  rw [steps]
  simp only [overtaken_snoc]
  simp [Overtaken,heardBy,producedFor]

theorem lamp_overtaken : Overtaken 1 lampLog :=
  ⟨lampLog.take 2,_,_,lampLog.drop 3,rfl,by simp,by simp [lampLog,heardBy,producedFor]⟩

theorem lamp_snapshots_in_order :
    ∃ here, Chronicle lamp {} lampLog here ∧ heardBy 0 lampLog <+: producedFor 0 lampLog ∧
      ∃ earlier older final, producedFor 1 lampLog = earlier ++ [older,final] ∧ final.status = .stopped ∧
        heardBy 1 lampLog = earlier ++ [final,older] := by
  obtain ⟨here,chronicle,single,idle⟩ := lamp_runs
  obtain ⟨deeds,path⟩ := chronicle.path
  have first := (snapshots_in_order path 0).1 lamp_not_overtaken
  obtain ⟨earlier,older,final,pair,_,stopped,_,crossed⟩ := ((snapshots_in_order path 1).2 chronicle).2 lamp_overtaken
  exact ⟨here,chronicle,first.1,earlier,older,final,pair,stopped,(crossed single).2 idle⟩

/-- The second listener is called again after it has been told that the interpreter was stopped. -/
theorem lamp_out_of_order :
    ∃ here, Chronicle lamp {} lampLog here ∧
      producedFor 1 lampLog = [⟨.a,{},.running⟩,⟨.a,{},.stopped⟩] ∧
      heardBy 1 lampLog = [⟨.a,{},.stopped⟩,⟨.a,{},.running⟩] := by
  obtain ⟨here,chronicle,_⟩ := lamp_runs
  exact ⟨here,chronicle,rfl,rfl⟩

end Gathering

end Statechart
