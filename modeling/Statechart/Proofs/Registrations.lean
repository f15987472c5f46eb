import Mathlib.Data.List.Induction
import Mathlib.Data.List.Nodup
import Statechart.Registry

/-!
# Registrations: who is registered and who is called

Listeners come and go while notifications are in progress, and those that are called do so, too, or begin notifications
of their own. Whatever is done and in whatever order, the registry holds the listeners that have been added and neither
removed nor released since, and a notification calls those that were registered when it began, one after another
(`Notifier.exact`).
-/
namespace Statechart

/-- One thing that is done to a registry or with it, by a caller or by a listener that is being called. -/
inductive Registry.Act (α μ : Type) where
  | subscribe (listener : α)
  | unsubscribe (number : Nat)
  | clear
  | notify (message : μ)
  /-- A notification, given by the number of those before it, goes on to its next listener, if it has one. -/
  | call (place : Nat)

/-- What is seen of the notifications. -/
inductive Registry.Report (α μ : Type) where
  | began (message : μ) (entries : List (Nat × α))
  | called (place : Nat) (entry : Nat × α) (message : μ)

/-- A message with the listeners that are still to be called with it. -/
structure Registry.Notification (α μ : Type) where
  message : μ
  unheard : List (Nat × α)

/-- A registry and all notifications that have begun, oldest first. -/
structure Notifier (α μ : Type) where
  registry : Registry α := {}
  notifications : List (Registry.Notification α μ) := []

open Registry

variable {α μ : Type}

namespace Registry.Act

def isSubscription : Act α μ → Bool
  | .subscribe _ => true
  | _ => false

def isNotification : Act α μ → Bool
  | .notify _ => true
  | _ => false

/-- Whether a notification goes on to its next listener. -/
def calls (place : Nat) : Act α μ → Bool
  | .call other => other = place
  | _ => false

/-- Whether the listener of a number is registered no more. -/
def releases (number : Nat) : Act α μ → Bool
  | .unsubscribe other => other = number
  | .clear => true
  | _ => false

end Registry.Act

/-! ## Removing -/

/-- Where numbers are distinct, removing the one of an entry leaves all others. -/
theorem Registry.remove_entry {registry : Registry α} (distinct : registry.numbers.Nodup) {front back : List (Nat × α)}
    {entry : Nat × α} (split : registry.entries = front ++ entry :: back) :
    (registry.remove entry.1).entries = front ++ back := by
  rw [numbers,split,List.map_append,List.map_cons,List.nodup_middle,List.nodup_cons,List.mem_append] at distinct
  have others : ∀ {part : List (Nat × α)},
      (∀ other ∈ part, other.1 ∈ front.map Prod.fst ∨ other.1 ∈ back.map Prod.fst) →
      part.filter (fun other => other.1 ≠ entry.1) = part := by
    intro part among
    rw [List.filter_eq_self]
    intro other member
    exact decide_eq_true fun same => distinct.1 (same ▸ among other member)
  rw [remove,split,List.filter_append,List.filter_cons_of_neg (by simp),
    others fun other member => .inl (List.mem_map_of_mem member),
    others fun other member => .inr (List.mem_map_of_mem member)]

/-- Where a number is not held, removing it leaves everyone. -/
theorem Registry.remove_unheld {registry : Registry α} {number : Nat} (unheld : registry.holds number = false) :
    registry.remove number = registry := by
  rw [holds,List.any_eq_false] at unheld
  have all : registry.entries.filter (fun entry => entry.1 ≠ number) = registry.entries := by
    rw [List.filter_eq_self]
    intro entry member
    simpa using unheld entry member
  rw [remove,all]

namespace Notifier

/-! ## What is to be expected -/

/-- How many listeners have been registered. -/
def given (acts : List (Act α μ)) : Nat := acts.countP Act.isSubscription

/-- How many notifications have begun. -/
def begun (acts : List (Act α μ)) : Nat := acts.countP Act.isNotification

/-- The listeners that are registered and not released later on, in order, with their numbers from the given one
onwards. -/
def standing : Nat → List (Act α μ) → List (Nat × α)
  | number, .subscribe listener :: acts =>
    if acts.any (Act.releases number) then standing (number + 1) acts
    else (number,listener) :: standing (number + 1) acts
  | number, _ :: acts => standing number acts
  | _, [] => []

/-- The calls of one notification. -/
def calledBy (place : Nat) (reports : List (Report α μ)) : List ((Nat × α) × μ) :=
  reports.filterMap fun
    | .called other entry message => if other = place then some (entry,message) else none
    | .began _ _ => none

/-! ## What is done -/

def step (notifier : Notifier α μ) : Act α μ → Notifier α μ
  | .subscribe listener => { notifier with registry := (notifier.registry.add listener).2 }
  | .unsubscribe number => { notifier with registry := notifier.registry.remove number }
  | .clear => { notifier with registry := notifier.registry.clear }
  | .notify message =>
    { notifier with notifications := notifier.notifications ++ [⟨message,notifier.registry.entries⟩] }
  | .call place =>
    { notifier with
      notifications := notifier.notifications.modify place fun told => { told with unheard := told.unheard.tail } }

def report? (notifier : Notifier α μ) : Act α μ → Option (Report α μ)
  | .notify message => some (.began message notifier.registry.entries)
  | .call place =>
    notifier.notifications[place]?.bind fun told => told.unheard.head?.map fun entry => .called place entry told.message
  | _ => none

def after (notifier : Notifier α μ) (acts : List (Act α μ)) : Notifier α μ := acts.foldl step notifier

def reports : Notifier α μ → List (Act α μ) → List (Report α μ)
  | _, [] => []
  | notifier, act :: acts => (notifier.report? act).toList ++ (notifier.step act).reports acts

theorem after_append (notifier : Notifier α μ) (acts more : List (Act α μ)) :
    notifier.after (acts ++ more) = (notifier.after acts).after more := List.foldl_append

theorem reports_append (notifier : Notifier α μ) (acts more : List (Act α μ)) :
    notifier.reports (acts ++ more) = notifier.reports acts ++ (notifier.after acts).reports more := by
  induction acts generalizing notifier with
  | nil => rfl
  | cons act acts ih => rw [List.cons_append,reports,ih,reports,List.append_assoc]; rfl

/-! ## Who is registered -/

theorem given_append (acts more : List (Act α μ)) : given (acts ++ more) = given acts + given more := List.countP_append

theorem given_subscribe (listener : α) (acts : List (Act α μ)) : given (.subscribe listener :: acts) = given acts + 1 :=
  List.countP_cons_of_pos rfl

/-- What is done later releases some of those that stand, and adds others. -/
theorem standing_append (number : Nat) (acts more : List (Act α μ)) :
    standing number (acts ++ more) =
      (standing number acts).filter (fun entry => !more.any (Act.releases entry.1)) ++
        standing (number + given acts) more := by
  induction acts generalizing number with
  | nil => rfl
  | cons act acts ih =>
    cases act with
    | subscribe listener =>
      have later : number + 1 + given acts = number + given (.subscribe listener :: acts) := by
        rw [given_subscribe]; omega
      simp only [List.cons_append,standing,List.any_append]
      rw [ih,later]
      cases gone : acts.any (Act.releases number) with
      | true => simp
      | false => cases lost : more.any (Act.releases number) <;> simp [lost]
    | _ => exact ih number

/-- Whoever stands has been registered and not been released afterwards. -/
theorem mem_standing {number : Nat} {acts : List (Act α μ)} {entry : Nat × α} :
    entry ∈ standing number acts ↔ ∃ before rest, acts = before ++ .subscribe entry.2 :: rest ∧
      entry.1 = number + given before ∧ rest.any (Act.releases entry.1) = false := by
  constructor
  · intro stands
    induction acts generalizing number with
    | nil => cases stands
    | cons act acts ih =>
      cases act with
      | subscribe listener =>
        have first_or_later : entry = (number,listener) ∧ acts.any (Act.releases number) = false ∨
            entry ∈ standing (number + 1) acts := by
          rw [standing] at stands
          split at stands
          · exact .inr stands
          · rename_i kept
            exact (List.mem_cons.mp stands).imp_left fun same => ⟨same,by simpa using kept⟩
        rcases first_or_later with ⟨rfl,kept⟩ | later
        · exact ⟨[],acts,rfl,rfl,kept⟩
        · obtain ⟨before,rest,rfl,counted,kept⟩ := ih later
          exact ⟨.subscribe listener :: before,rest,rfl,by rw [given_subscribe]; omega,kept⟩
      | _ =>
        obtain ⟨before,rest,rfl,counted,kept⟩ := ih stands
        exact ⟨_ :: before,rest,rfl,counted,kept⟩
  · rintro ⟨before,rest,rfl,counted,kept⟩
    rw [standing_append,List.mem_append,standing,← counted,kept]
    exact .inr List.mem_cons_self

/-- Those who stand have numbers that have been given. -/
theorem standing_bounds {number : Nat} {acts : List (Act α μ)} {entry : Nat × α}
    (stands : entry ∈ standing number acts) : number ≤ entry.1 ∧ entry.1 < number + given acts := by
  induction acts generalizing number with
  | nil => cases stands
  | cons act acts ih =>
    cases act with
    | subscribe listener =>
      rw [given_subscribe]
      rw [standing] at stands
      split at stands
      · have bounds := ih stands
        omega
      · rcases List.mem_cons.mp stands with same | other
        · subst same
          simp
        · have bounds := ih other
          omega
    | _ => exact ih stands

/-- Those who stand are in the order of their numbers. -/
theorem standing_ordered (number : Nat) (acts : List (Act α μ)) :
    ((standing number acts).map Prod.fst).Pairwise (· < ·) := by
  induction acts generalizing number with
  | nil => exact List.Pairwise.nil
  | cons act acts ih =>
    cases act with
    | subscribe listener =>
      rw [standing]
      split
      · exact ih _
      · rw [List.map_cons,List.pairwise_cons]
        refine ⟨?_,ih _⟩
        intro other member
        obtain ⟨entry,stands,rfl⟩ := List.mem_map.mp member
        exact (standing_bounds stands).1
    | _ => exact ih number

/-- Whoever has been released stands no more. -/
theorem not_standing {before rest : List (Act α μ)} {act : Act α μ} {number : Nat}
    (released : act.releases number = true) (known : number < given before) :
    number ∉ (standing 0 (before ++ act :: rest)).map Prod.fst := by
  intro member
  obtain ⟨entry,stands,rfl⟩ := List.mem_map.mp member
  rw [standing_append,List.mem_append,List.mem_filter,List.any_cons,released] at stands
  rcases stands with ⟨_,kept⟩ | later
  · simp at kept
  · have bounds := standing_bounds later
    omega

/-- The registry holds those who stand. -/
theorem registry_after (acts : List (Act α μ)) :
    (after ({} : Notifier α μ) acts).registry = ⟨given acts,standing 0 acts⟩ := by
  -- from the end, because an act changes what those before it have led to
  induction acts using List.reverseRecOn with
  | nil => rfl
  | append_singleton acts act ih =>
    rw [after_append,standing_append,given_append]
    change ((after {} acts).step act).registry = _
    cases act <;>
      simp [step,ih,add,remove,Registry.clear,standing,given,Act.isSubscription,Act.releases,eq_comm]

/-- A number is held as long as its listener stands. -/
theorem holds_after (acts : List (Act α μ)) (number : Nat) :
    (after {} acts).registry.holds number = true ↔ number ∈ (standing 0 acts).map Prod.fst := by
  rw [registry_after,Registry.holds,List.any_eq_true,List.mem_map]
  simp only [decide_eq_true_iff]

/-! ## Who is called -/

theorem calledBy_append (place : Nat) (reports more : List (Report α μ)) :
    calledBy place (reports ++ more) = calledBy place reports ++ calledBy place more := List.filterMap_append

theorem step_call_of_ne {place other : Nat} (different : other ≠ place) (notifier : Notifier α μ) :
    (notifier.step (.call other)).notifications[place]? = notifier.notifications[place]? := by
  simp [step,different]

theorem step_call_self {notifier : Notifier α μ} {place : Nat} {told : Notification α μ}
    (found : notifier.notifications[place]? = some told) :
    (notifier.step (.call place)).notifications[place]? = some { told with unheard := told.unheard.tail } := by
  simp [step,found]

theorem step_notify_of_lt {notifier : Notifier α μ} {place : Nat} (known : place < notifier.notifications.length)
    (message : μ) : (notifier.step (.notify message)).notifications[place]? = notifier.notifications[place]? :=
  List.getElem?_append_left known

theorem step_notify_self (notifier : Notifier α μ) (message : μ) :
    (notifier.step (.notify message)).notifications[notifier.notifications.length]? =
      some ⟨message,notifier.registry.entries⟩ := by
  simp [step]

/-- With each of its steps a notification calls one of those who are still to hear of it, and nothing else changes
them. -/
theorem calledBy_reports {notifier : Notifier α μ} {place : Nat} {told : Notification α μ}
    (found : notifier.notifications[place]? = some told) (acts : List (Act α μ)) :
    calledBy place (notifier.reports acts) =
        (told.unheard.take (acts.countP (Act.calls place))).map (·,told.message) ∧
      (notifier.after acts).notifications[place]? =
        some ⟨told.message,told.unheard.drop (acts.countP (Act.calls place))⟩ := by
  induction acts generalizing notifier told with
  | nil => exact ⟨by simp [calledBy,reports],found⟩
  | cons act acts ih =>
    have known : place < notifier.notifications.length := (List.getElem?_eq_some_iff.mp found).1
    rw [reports,calledBy_append]
    by_cases goes : act.calls place = true
    · cases act with
      | call other =>
        have same : other = place := of_decide_eq_true goes
        subst same
        obtain ⟨called,left⟩ := ih (step_call_self found)
        rw [List.drop_tail] at left
        rw [List.countP_cons_of_pos goes,called]
        refine ⟨?_,left⟩
        cases unheard : told.unheard with
        | nil => simp [report?,found,unheard,calledBy]
        | cons entry rest => simp [report?,found,unheard,calledBy]
      | _ => cases goes
    · have next : (notifier.step act).notifications[place]? = some told := by
        cases act with
        | notify message => exact (step_notify_of_lt known message).trans found
        | call other =>
          have different : other ≠ place := by simpa [Act.calls] using goes
          exact (step_call_of_ne different notifier).trans found
        | _ => exact found
      have silent : calledBy place (notifier.report? act).toList = [] := by
        cases act with
        | call other =>
          have different : other ≠ place := by simpa [Act.calls] using goes
          rw [report?]
          cases notifier.notifications[other]? with
          | none => rfl
          | some another => cases unheard : another.unheard <;> simp [unheard,calledBy,different]
        | _ => rfl
      rw [List.countP_cons_of_neg goes,silent]
      exact ih next

theorem length_after (notifier : Notifier α μ) (acts : List (Act α μ)) :
    (notifier.after acts).notifications.length = notifier.notifications.length + begun acts := by
  induction acts generalizing notifier with
  | nil => rfl
  | cons act acts ih =>
    rw [after,List.foldl_cons]
    refine (ih _).trans ?_
    cases act with
    | notify message =>
      have more : begun (.notify message :: acts) = begun acts + 1 := List.countP_cons_of_pos rfl
      simp [step,more]
      omega
    | call place => simp [step,begun,Act.isNotification]
    | _ => rfl

/-- Nobody is called by a notification that has not begun. -/
theorem called_of_begun {notifier : Notifier α μ} {acts : List (Act α μ)} {place : Nat} {entry : Nat × α} {message : μ}
    (called : .called place entry message ∈ notifier.reports acts) :
    place < (notifier.after acts).notifications.length := by
  induction acts generalizing notifier with
  | nil => cases called
  | cons act acts ih =>
    rcases List.mem_append.mp called with now | later
    · rw [Option.mem_toList] at now
      rw [length_after]
      cases act with
      | call other =>
        simp only [report?,Option.bind_eq_some_iff,Option.map_eq_some_iff] at now
        obtain ⟨told,found,next,_,same⟩ := now
        cases same
        have known := (List.getElem?_eq_some_iff.mp found).1
        omega
      | _ => cases now
    · exact ih later

/-- A notification calls those who stand when it begins, in order, one with each of its steps. -/
theorem calledBy_notification (before rest : List (Act α μ)) (message : μ) :
    calledBy (begun before) (reports {} (before ++ .notify message :: rest)) =
        ((standing 0 before).take (rest.countP (Act.calls (begun before)))).map (·,message) ∧
      (after {} (before ++ .notify message :: rest)).notifications[begun before]? =
        some ⟨message,(standing 0 before).drop (rest.countP (Act.calls (begun before)))⟩ := by
  have length : (after ({} : Notifier α μ) before).notifications.length = begun before := by
    rw [length_after]
    exact Nat.zero_add _
  have found : (((after {} before).step (.notify message)).notifications)[begun before]? =
      some ⟨message,standing 0 before⟩ := by
    rw [← length,step_notify_self,registry_after]
  have earlier : calledBy (begun before) (reports {} before) = [] := by
    rw [calledBy,List.filterMap_eq_nil_iff]
    intro report member
    cases report with
    | began _ _ => rfl
    | called place entry told =>
      have known := called_of_begun member
      rw [length] at known
      exact if_neg (Nat.ne_of_lt known)
  rw [reports_append,after_append,calledBy_append,earlier]
  exact calledBy_reports found rest

/-- What is to be expected of a registry, whatever is done to it. -/
structure Exact (acts : List (Act α μ)) : Prop where
  /-- The registry holds those who stand, and gives away one number after another. -/
  registry : (after {} acts).registry = ⟨given acts,standing 0 acts⟩
  /-- Those stand who have been added and not been removed or released since. -/
  stands : ∀ entry : Nat × α, entry ∈ standing 0 acts ↔ ∃ before rest, acts = before ++ .subscribe entry.2 :: rest ∧
    entry.1 = given before ∧ rest.any (Act.releases entry.1) = false
  /-- Their numbers are distinct and in the order of registration. -/
  ordered : ((standing 0 acts).map Prod.fst).Pairwise (· < ·)
  /-- As words of 64 bits the numbers are distinct, too. -/
  words : given acts < UInt64.size → ∀ first < given acts, ∀ second < given acts,
    UInt64.ofNat first = UInt64.ofNat second → first = second
  /-- Whoever unsubscribes is told whether the listener of the number was still registered. -/
  answers : ∀ number, (after {} acts).registry.holds number = true ↔ number ∈ (standing 0 acts).map Prod.fst
  /-- It is removed, and no other one. -/
  removes : ∀ front entry back, standing 0 acts = front ++ entry :: back →
    ((after {} acts).registry.remove entry.1).entries = front ++ back
  /-- Nobody is removed when it was not registered any more. -/
  keeps : ∀ number, (after {} acts).registry.holds number = false →
    (after {} acts).registry.remove number = (after {} acts).registry
  /-- Once it has been removed or released, it never is registered again. -/
  spent : ∀ before act rest number, acts = before ++ act :: rest → act.releases number = true → number < given before →
    (after {} acts).registry.holds number = false
  /-- A notification calls those who stood when it began, in order, one with each of its steps. -/
  calls : ∀ before message rest, acts = before ++ .notify message :: rest →
    calledBy (begun before) (reports {} acts) =
      ((standing 0 before).take (rest.countP (Act.calls (begun before)))).map (·,message)
  /-- Nobody is called otherwise. -/
  only : ∀ place entry message, .called place entry message ∈ reports {} acts → place < begun acts

theorem exact (acts : List (Act α μ)) : Exact acts := by
  have held := registry_after acts
  have ordered := standing_ordered 0 acts
  refine ⟨held,?_,ordered,?_,holds_after acts,?_,fun _ => remove_unheld,?_,?_,?_⟩
  · intro entry
    rw [mem_standing]
    simp only [Nat.zero_add]
  · intro few first below second under same
    have words := congrArg UInt64.toNat same
    rw [UInt64.toNat_ofNat_of_lt' (Nat.lt_trans below few),UInt64.toNat_ofNat_of_lt' (Nat.lt_trans under few)] at words
    exact words
  · intro front entry back split
    have distinct : (after {} acts).registry.numbers.Nodup := by
      rw [held]
      exact ordered.imp Nat.ne_of_lt
    exact remove_entry distinct (by rw [held]; exact split)
  · rintro before act rest number rfl released known
    rw [Bool.eq_false_iff]
    exact fun holds => not_standing released known ((holds_after _ number).mp holds)
  · rintro before message rest rfl
    exact (calledBy_notification before rest message).1
  · intro place entry message called
    have known := called_of_begun called
    rw [length_after] at known
    simpa using known

/-- The first of two listeners releases everyone when it is called. The second one is called nevertheless, but not of
what comes later. -/
example :
    let acts : List (Act String Nat) :=
      [.subscribe "first",.subscribe "second",.notify 3,.call 0,.clear,.call 0,.notify 4,.call 1]
    calledBy 0 (reports {} acts) = [((0,"first"),3),((1,"second"),3)] ∧ calledBy 1 (reports {} acts) = [] := by
  decide

end Notifier

end Statechart
