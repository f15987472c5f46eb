import Statechart.Proofs.Ownership
import Statechart.Site

/-!
# Sites: whatever is done at a site is a run

Plans are carried out by functions that call each other: a plan places a call, the call comes to a
callback, and the callback is a plan again. Whatever they do, every interpreter of the site is at a
moment of a run of its own, and the calls that were in progress on it are left as they were found
(`follow_runs`).
-/
namespace Statechart

variable {M : Machine} {Env α β : Type}

/-- An interpreter at a moment of some run. -/
def Interpreter.Arises (self : Interpreter M) : Prop :=
  ∃ graph options, Gathering.Reachable graph options ⟨self,[]⟩

namespace Interpreter

theorem arises_fresh (graph : Graph M) (options : Options) : (fresh graph options).Arises :=
  ⟨graph,options,[],[],.here⟩

theorem Arises.turn {self next : Interpreter M} {deed : Deed M} (arises : self.Arises)
    (turn : Turn self deed next) : next.Arises := by
  obtain ⟨graph,options,deeds,log,path⟩ := arises
  exact ⟨graph,options,_,_,path.onward (.turn turn)⟩

end Interpreter

/-- It is the run of its own graph. -/
theorem Interpreter.Arises.reachable {self : Interpreter M} (arises : self.Arises) :
    Gathering.Reachable self.graph self.options ⟨self,[]⟩ := by
  obtain ⟨graph,options,reachable⟩ := arises
  have graphs : self.graph = graph := reachable.sound.graph_eq
  have limits : self.options = options := reachable.sound.options_eq
  rw [graphs,limits]
  exact reachable

/-! ## The parts of one call -/

/-- The frames of one call, the latest first. -/
inductive Segment : List (Frame M) → Prop where
  | starting (pending : Pending M) : Segment [.starting pending]
  | draining (drainer : Drainer M) (firstError : Option (Failure M.State)) :
      Segment [.draining drainer firstError]
  | reacting (drainer : Drainer M) (firstError : Option (Failure M.State)) (event : Event M)
      (pending : Pending M) : Segment [.reacting drainer firstError event pending]
  | telling (snapshot : Snapshot M.State M.Context) (unheard : List (Nat × M.Listener)) {sequel : Sequel}
      (drainer : Drainer M) (firstError : Option (Failure M.State)) (more : sequel ≠ .stopped) :
      Segment [.publishing snapshot unheard sequel,.draining drainer firstError]
  | stopping (snapshot : Snapshot M.State M.Context) (unheard : List (Nat × M.Listener)) :
      Segment [.publishing snapshot unheard .stopped]

namespace Interpreter

/-- A call returns at once and leaves the stack alone, or it is in progress on top of the stack. -/
theorem enter_cases (self : Interpreter M) (call : Call M) :
    ((∃ reply, (self.enter call).2 = some reply) ∧ (self.enter call).1.stack = self.stack) ∨
      ((self.enter call).2 = none ∧ ∃ calls, Segment calls ∧ (self.enter call).1.stack = calls ++ self.stack) := by
  cases call with
  | start clocked =>
    rw [enter]
    rcases self.start_cases clocked with ⟨_,result⟩ | ⟨_,result⟩ | ⟨_,result⟩
    · rw [result]; exact .inl ⟨⟨_,rfl⟩,rfl⟩
    · rw [result]; exact .inl ⟨⟨_,rfl⟩,rfl⟩
    · rw [result]; exact .inr ⟨rfl,_,.starting _,rfl⟩
  | post event =>
    rw [enter]
    rcases self.post_cases event with ⟨_,result⟩ | ⟨_,result⟩ | ⟨_,_,result⟩ | ⟨_,_,result⟩
    · rw [result]; exact .inl ⟨⟨_,rfl⟩,rfl⟩
    · rw [result]; exact .inl ⟨⟨_,rfl⟩,rfl⟩
    · rw [result]; exact .inl ⟨⟨_,rfl⟩,rfl⟩
    · rw [result]; exact .inr ⟨rfl,_,.draining _ _,rfl⟩
  | stop =>
    rw [enter]
    rcases self.stop_cases with ⟨_,result⟩ | ⟨_,_,result⟩
    · rw [result]; exact .inl ⟨⟨_,rfl⟩,rfl⟩
    · rw [result]; exact .inr ⟨rfl,_,.stopping _ _,rfl⟩

/-- When a call goes on by itself, it returns and is off the stack, or it is still in progress. -/
theorem tick_segment {self : Interpreter M} {calls base : List (Frame M)} (segment : Segment calls)
    (stack : self.stack = calls ++ base) (free : self.prompt = none) :
    ((∃ reply, self.tick.2 = some reply) ∧ self.tick.1.stack = base) ∨
      (self.tick.2 = none ∧ ∃ later, Segment later ∧ self.tick.1.stack = later ++ base) := by
  cases segment with
  | starting pending =>
    rw [List.singleton_append] at stack
    cases pending with
    | ask _ _ => simp [prompt,stack] at free
    | done result =>
      cases result with
      | error failure => exact .inl (by simp [tick,stack,abandonStart])
      | ok step =>
        have goes : self.tick = (self.finishStart step base,none) := by rw [tick,stack]
        rw [goes,finishStart]
        by_cases admitted : self.core.admits step = true
        · rw [if_pos admitted]
          exact .inr ⟨rfl,_,.telling _ _ _ _ (by simp),rfl⟩
        · rw [if_neg admitted]
          exact .inr ⟨rfl,_,.draining _ _,rfl⟩
  | draining drainer firstError =>
    rw [List.singleton_append] at stack
    cases mail : self.mailbox with
    | nil => exact .inl (by simp [tick,stack,mail])
    | cons event rest =>
      have goes : self.tick = (self.processNext drainer firstError event rest base,none) := by rw [tick,stack,mail]
      rw [goes,processNext]
      by_cases handled : (self.core.status = .running && self.core.accepts event) = true
      · rw [if_pos handled]
        exact .inr ⟨rfl,_,.reacting _ _ _ _,rfl⟩
      · rw [if_neg handled]
        exact .inr ⟨rfl,_,.draining _ _,stack⟩
  | reacting drainer firstError event pending =>
    rw [List.singleton_append] at stack
    cases pending with
    | ask _ _ => simp [prompt,stack] at free
    | done result =>
      cases result with
      | error failure =>
        have goes : self.tick = (self.abandonStep drainer firstError event failure base,none) := by rw [tick,stack]
        rw [goes,abandonStep]
        by_cases faults : (event.origin.isSome && self.core.status = .running) = true
        · rw [if_pos faults]
          exact .inr ⟨rfl,_,.telling _ _ _ _ (by simp),rfl⟩
        · rw [if_neg faults]
          exact .inr ⟨rfl,_,.draining _ _,rfl⟩
      | ok step =>
        have goes : self.tick = (self.finishStep drainer firstError step base,none) := by rw [tick,stack]
        rw [goes,finishStep]
        by_cases admitted : self.core.admits step = true
        · rw [if_pos admitted]
          exact .inr ⟨rfl,_,.telling _ _ _ _ (by simp),rfl⟩
        · rw [if_neg admitted]
          exact .inr ⟨rfl,_,.draining _ _,rfl⟩
  | @telling snapshot unheard sequel drainer firstError more =>
    rw [List.cons_append,List.singleton_append] at stack
    cases unheard with
    | cons entry rest => simp [prompt,stack] at free
    | nil =>
      have goes : self.tick.2 = none ∧ self.tick.1.stack = .draining drainer firstError :: base := by
        cases sequel with
        | stopped => exact absurd rfl more
        | _ => simp [tick,stack]
      exact .inr ⟨goes.1,_,.draining _ _,goes.2⟩
  | stopping snapshot unheard =>
    rw [List.singleton_append] at stack
    cases unheard with
    | cons entry rest => simp [prompt,stack] at free
    | nil => exact .inl (by simp [tick,stack])

/-- What an interpreter waits for is what the call on top of its stack has come to. -/
theorem prompt_congr {self later : Interpreter M} (same : later.stack = self.stack) : later.prompt = self.prompt := by
  rw [prompt,prompt,same]

theorem resume_segment {self : Interpreter M} {calls base : List (Frame M)} {query : Query M}
    {next : query.Answer → Pending M} (segment : Segment calls) (stack : self.stack = calls ++ base)
    (asked : self.prompt = some (.query query next)) (pending : Pending M) :
    ∃ later, Segment later ∧ (self.resume pending).stack = later ++ base := by
  rcases resume_cases asked with ⟨below,top,resumed⟩ | ⟨drainer,firstError,event,below,top,resumed⟩
  · rw [top] at stack
    rw [resumed]
    cases segment with
    | starting _ => cases stack; exact ⟨_,.starting pending,rfl⟩
    | _ => cases stack
  · rw [top] at stack
    rw [resumed]
    cases segment with
    | reacting _ _ _ _ => cases stack; exact ⟨_,.reacting drainer firstError event pending,rfl⟩
    | _ => cases stack

theorem notified_segment {self : Interpreter M} {calls base : List (Frame M)} {listener : M.Listener}
    {snapshot : Snapshot M.State M.Context} (segment : Segment calls) (stack : self.stack = calls ++ base)
    (asked : self.prompt = some (.notify listener snapshot)) :
    ∃ number later, Turn self (.told number snapshot) self.notified ∧ Segment later ∧
      self.notified.stack = later ++ base := by
  cases segment with
  | starting pending =>
    rw [List.singleton_append] at stack
    cases pending <;> simp [prompt,stack] at asked
  | draining _ _ => simp [prompt,stack] at asked
  | reacting _ _ _ pending =>
    rw [List.singleton_append] at stack
    cases pending <;> simp [prompt,stack] at asked
  | telling told unheard drainer firstError more =>
    rw [List.cons_append,List.singleton_append] at stack
    cases unheard with
    | nil => simp [prompt,stack] at asked
    | cons entry rest =>
      have same : told = snapshot := by simp [prompt,stack] at asked; exact asked.2
      subst same
      exact ⟨_,_,.told stack,.telling told rest drainer firstError more,by rw [notified_eq stack]; rfl⟩
  | stopping told unheard =>
    rw [List.singleton_append] at stack
    cases unheard with
    | nil => simp [prompt,stack] at asked
    | cons entry rest =>
      have same : told = snapshot := by simp [prompt,stack] at asked; exact asked.2
      subst same
      exact ⟨_,_,.told stack,.stopping told rest,by rw [notified_eq stack]; rfl⟩

end Interpreter

/-! ## Sites -/

namespace Site

/-- Every interpreter has a number of its own and is at a moment of some run. -/
structure Lawful (site : Site M Env) : Prop where
  arises : ∀ entry ∈ site.interpreters, entry.2.Arises
  distinct : (site.interpreters.map Prod.fst).Nodup
  known : ∀ entry ∈ site.interpreters, entry.1 < site.next

/-- The calls in progress on the interpreter of a number are left as they were. -/
def Keeps (before after : Site M Env) (number : Nat) : Prop :=
  ∀ self, before.interpreter? number = some self → self.stack ≠ [] →
    ∃ later, after.interpreter? number = some later ∧ later.stack = self.stack

theorem Keeps.refl (site : Site M Env) (number : Nat) : site.Keeps site number :=
  fun self found _ => ⟨self,found,rfl⟩

theorem Keeps.trans {first second third : Site M Env} {number : Nat} (keeps : first.Keeps second number)
    (further : second.Keeps third number) : first.Keeps third number := by
  intro self found busy
  obtain ⟨later,still,same⟩ := keeps self found busy
  obtain ⟨last,there,kept⟩ := further later still (by rw [same]; exact busy)
  exact ⟨last,there,kept.trans same⟩

variable {site : Site M Env} {number : Nat} {self : Interpreter M}

theorem mem_of_interpreter? (found : site.interpreter? number = some self) :
    (number,self) ∈ site.interpreters := by
  obtain ⟨entry,first,same⟩ := Option.map_eq_some_iff.mp found
  have named : entry.1 = number := by simpa using List.find?_some first
  rw [← named,← same]
  exact List.mem_of_find?_eq_some first

theorem Lawful.interpreter?_of_mem (lawful : site.Lawful) (member : (number,self) ∈ site.interpreters) :
    site.interpreter? number = some self := by
  have distinct := lawful.distinct
  rw [interpreter?]
  generalize site.interpreters = entries at member distinct
  induction entries with
  | nil => cases member
  | cons entry rest ih =>
    rw [List.map_cons,List.nodup_cons] at distinct
    rcases List.mem_cons.mp member with same | later
    · subst same
      simp
    · have other : entry.1 ≠ number := by
        intro same
        exact distinct.1 (same ▸ List.mem_map_of_mem later)
      rw [List.find?_cons_of_neg (by simpa using other)]
      exact ih later distinct.2

theorem interpreter?_update (site : Site M Env) (number : Nat) (self : Interpreter M) (other : Nat) :
    (site.update number self).interpreter? other =
      (site.interpreter? other).map fun earlier => if other = number then self else earlier := by
  have named : ((fun entry => decide (entry.1 = other)) ∘ fun entry : Nat × Interpreter M =>
      if entry.1 = number then (number,self) else entry) = fun entry => decide (entry.1 = other) := by
    funext entry
    by_cases here : entry.1 = number
    · simp [here]
    · simp [here]
  simp only [interpreter?,update,List.find?_map,named]
  cases first : site.interpreters.find? fun entry => decide (entry.1 = other) with
  | none => rfl
  | some entry =>
    have same : entry.1 = other := by simpa using List.find?_some first
    by_cases here : other = number
    · simp [same,here]
    · simp [same,here]

/-- An interpreter on which a call is in progress is not forgotten. -/
theorem interpreter?_sweep (found : site.interpreter? number = some self) (busy : self.stack ≠ []) :
    site.sweep.interpreter? number = some self := by
  simp only [interpreter?,sweep] at found ⊢
  generalize site.interpreters = entries at found
  induction entries with
  | nil => cases found
  | cons entry rest ih =>
    by_cases here : entry.1 = number
    · rw [List.find?_cons_of_pos (by simpa using here)] at found
      have same : entry.2 = self := by simpa using found
      rw [List.filter_cons_of_pos (by simp [same,busy]),List.find?_cons_of_pos (by simpa using here)]
      exact found
    · rw [List.find?_cons_of_neg (by simpa using here)] at found
      rw [List.filter_cons]
      split
      · rw [List.find?_cons_of_neg (by simpa using here)]
        exact ih found
      · exact ih found

theorem keeps_sweep (site : Site M Env) (number : Nat) : site.Keeps site.sweep number :=
  fun self found busy => ⟨self,interpreter?_sweep found busy,rfl⟩

theorem keeps_update {other : Nat} (site : Site M Env) (different : other ≠ number) (self : Interpreter M) :
    site.Keeps (site.update number self) other := by
  intro earlier found _
  exact ⟨earlier,by rw [interpreter?_update,found]; simp [different],rfl⟩

/-- A deed that leaves the stack alone keeps the calls in progress. -/
theorem keeps_update_self {earlier : Interpreter M} (found : site.interpreter? number = some earlier)
    (same : self.stack = earlier.stack) (other : Nat) : site.Keeps (site.update number self) other := by
  by_cases here : other = number
  · subst here
    intro first there _
    rw [found] at there
    cases there
    exact ⟨self,by rw [interpreter?_update,found]; simp,same⟩
  · exact site.keeps_update here self

namespace Lawful

theorem found (lawful : site.Lawful) (found : site.interpreter? number = some self) : self.Arises :=
  lawful.arises _ (mem_of_interpreter? found)

theorem update (lawful : site.Lawful) (number : Nat) (arises : self.Arises) : (site.update number self).Lawful := by
  have numbers : (site.update number self).interpreters.map Prod.fst = site.interpreters.map Prod.fst := by
    rw [Site.update,List.map_map]
    apply List.map_congr_left
    intro entry _
    by_cases here : entry.1 = number
    · simp [here]
    · simp [here]
  refine ⟨?_,?_,?_⟩
  · intro entry member
    obtain ⟨earlier,before,same⟩ := List.mem_map.mp member
    by_cases here : earlier.1 = number
    · rw [← same,if_pos here]
      exact arises
    · rw [← same,if_neg here]
      exact lawful.arises earlier before
  · rw [numbers]
    exact lawful.distinct
  · intro entry member
    have named : entry.1 ∈ site.interpreters.map Prod.fst := numbers ▸ List.mem_map_of_mem member
    obtain ⟨earlier,before,same⟩ := List.mem_map.mp named
    rw [← same]
    exact lawful.known earlier before

theorem sweep (lawful : site.Lawful) : site.sweep.Lawful := by
  refine ⟨?_,?_,?_⟩
  · intro entry member
    exact lawful.arises entry (List.mem_filter.mp member).1
  · exact lawful.distinct.sublist (List.filter_sublist.map _)
  · intro entry member
    exact lawful.known entry (List.mem_filter.mp member).1

theorem replace (lawful : site.Lawful) {interpreter : Option (Interpreter M)}
    (arises : ∀ self, interpreter = some self → self.Arises) : (site.replace interpreter).Lawful := by
  cases interpreter with
  | none => exact Lawful.sweep ⟨lawful.arises,lawful.distinct,lawful.known⟩
  | some self =>
    apply Lawful.sweep
    refine ⟨?_,?_,?_⟩
    · intro entry member
      rcases List.mem_append.mp member with old | new
      · exact lawful.arises entry old
      · rw [List.mem_singleton.mp new]
        exact arises self rfl
    · simp only [List.map_append,List.map_cons,List.map_nil]
      rw [List.nodup_append]
      refine ⟨lawful.distinct,by simp,?_⟩
      intro number member other same
      obtain ⟨entry,old,named⟩ := List.mem_map.mp member
      rw [List.mem_singleton.mp same,← named]
      exact Nat.ne_of_lt (lawful.known entry old)
    · intro entry member
      rcases List.mem_append.mp member with old | new
      · exact Nat.lt_succ_of_lt (lawful.known entry old)
      · rw [List.mem_singleton.mp new]
        exact Nat.lt_succ_self _

end Lawful

theorem keeps_replace (site : Site M Env) (interpreter : Option (Interpreter M)) (number : Nat) :
    site.Keeps (site.replace interpreter) number := by
  cases interpreter with
  | none => exact keeps_sweep { site with current := none } number
  | some new =>
    intro self found busy
    refine ⟨self,interpreter?_sweep ?_ busy,rfl⟩
    obtain ⟨entry,first,same⟩ := Option.map_eq_some_iff.mp found
    rw [interpreter?,List.find?_append,first]
    simpa using same

/-! ## The clock -/

/-- An activity at a place of the interpreter of a number. -/
def Has (site : Site M Env) (number place : Nat) (activity : Activity M) : Prop :=
  ∃ self, site.interpreter? number = some self ∧ self.core.activities[place]? = some activity

theorem Lawful.queued (lawful : site.Lawful) {place : Nat} {activity : Activity M}
    (ready : site.queued? = some (number,place,activity)) : site.Has number place activity := by
  obtain ⟨entry,member,queued⟩ := List.exists_of_findSome?_eq_some ready
  obtain ⟨found,first,same⟩ := Option.map_eq_some_iff.mp queued
  cases same
  refine ⟨entry.2,lawful.interpreter?_of_mem member,?_⟩
  exact List.mem_zipIdx_iff_getElem?.mp (List.mem_of_find?_eq_some first)

theorem mem_of_earliest {entries : List (Nat × Nat × Nat × Activity M)}
    {earliest : Option (Nat × Nat × Nat × Activity M)} {found : Nat × Nat × Nat × Activity M}
    (last : entries.foldl (fun first candidate =>
      match first with
      | none => some candidate
      | some earliest => if candidate.1 < earliest.1 then some candidate else first) earliest = some found) :
    earliest = some found ∨ found ∈ entries := by
  induction entries generalizing earliest with
  | nil => exact .inl last
  | cons candidate rest ih =>
    rcases ih last with now | later
    · cases earliest with
      | none => cases now; exact .inr List.mem_cons_self
      | some earliest =>
        by_cases sooner : candidate.1 < earliest.1
        · simp only [if_pos sooner] at now
          cases now
          exact .inr List.mem_cons_self
        · simp only [if_neg sooner] at now
          exact .inl now
    · exact .inr (List.mem_cons_of_mem _ later)

theorem mem_asleep {found : Nat × Nat × Nat × Activity M} (first : site.firstDue? = some found) :
    found ∈ site.asleep := by
  rcases mem_of_earliest first with none | member
  · cases none
  · exact member

theorem Lawful.asleep (lawful : site.Lawful) {due place : Nat} {activity : Activity M}
    (sleeps : (due,number,place,activity) ∈ site.asleep) : site.Has number place activity := by
  obtain ⟨entry,member,among⟩ := List.mem_flatMap.mp sleeps
  obtain ⟨indexed,inside,same⟩ := List.mem_filterMap.mp among
  obtain ⟨_,_,named⟩ := Option.map_eq_some_iff.mp same
  cases named
  exact ⟨entry.2,lawful.interpreter?_of_mem member,List.mem_zipIdx_iff_getElem?.mp inside⟩

/-- After the one the other, with every call in progress left as it was. -/
structure Onward (before after : Site M Env) : Prop where
  lawful : after.Lawful
  keeps : ∀ number, before.Keeps after number

theorem Onward.refl (lawful : site.Lawful) : site.Onward site := ⟨lawful,Keeps.refl site⟩

theorem Onward.trans {first second third : Site M Env} (onward : first.Onward second)
    (further : second.Onward third) : first.Onward third :=
  ⟨further.lawful,fun number => (onward.keeps number).trans (further.keeps number)⟩

theorem update_update (site : Site M Env) (number : Nat) (first second : Interpreter M) :
    (site.update number first).update number second = site.update number second := by
  simp only [update,List.map_map]
  congr 1
  apply List.map_congr_left
  intro entry _
  by_cases here : entry.1 = number
  · simp [here]
  · simp [here]

theorem setActivity_eq (found : site.interpreter? number = some self) (place : Nat) (later : Option (Activity M)) :
    site.setActivity number place later = site.update number (self.setActivity place later) := by
  rw [setActivity,found]

theorem Has.sleep {place : Nat} {activity later : Activity M} (has : site.Has number place activity)
    (lawful : site.Lawful) (continues : activity.Continues later) :
    site.Onward (site.setActivity number place (some later)) := by
  obtain ⟨self,found,active⟩ := has
  rw [setActivity_eq found]
  exact ⟨lawful.update number ((lawful.found found).turn (.sleep active continues)),keeps_update_self found rfl⟩

/-- An activity that is over is taken away, and its outcome can be delivered. -/
theorem Has.deliver {place : Nat} {activity : Activity M} {event : Event M} (has : site.Has number place activity)
    (lawful : site.Lawful) (ends : activity.EndsWith event) :
    (∀ other, site.Keeps (site.setActivity number place none) other) ∧
      ∀ self, (site.setActivity number place none).interpreter? number = some self →
        ((site.setActivity number place none).update number (self.post event).1).Lawful := by
  obtain ⟨self,found,active⟩ := has
  rw [setActivity_eq found]
  refine ⟨keeps_update_self found rfl,?_⟩
  intro later there
  have same : later = self.setActivity place none := by
    rw [interpreter?_update,found] at there
    simpa using there.symm
  rw [same,update_update]
  exact lawful.update number ((lawful.found found).turn (.deliver active ends))

/-- The clock lets an activity go on: to its next sleep, or to an event that is to be delivered. -/
theorem advance_runs (lawful : site.Lawful) (host : Host M Env) {place : Nat} {activity : Activity M}
    (has : site.Has number place activity) :
    (∀ other, site.Keeps (site.advance host number place activity).1 other) ∧
    match site.advance host number place activity with
    | (after,none) => after.Lawful
    | (after,some event) => ∀ self, after.interpreter? number = some self →
        (after.update number (self.post event).1).Lawful := by
  obtain ⟨origin,job,phase⟩ := activity
  cases job with
  | timer span =>
    cases phase with
    | queued =>
      have onward := has.sleep lawful (.timer origin span (site.now + span))
      exact ⟨onward.keeps,onward.lawful⟩
    | asleep due => exact has.deliver lawful (.timer origin span due)
  | service task =>
    have elsewhere : Lawful { site with env := (host.proceed task site.env).2 } :=
      ⟨lawful.arises,lawful.distinct,lawful.known⟩
    have there : Has { site with env := (host.proceed task site.env).2 } number place ⟨origin,.service task,phase⟩ := has
    cases progress : (host.proceed task site.env).1 with
    | sleeping span rest =>
      have onward := there.sleep elsewhere (.service origin task rest phase (site.now + span))
      simp only [advance,progress]
      exact ⟨onward.keeps,onward.lawful⟩
    | resolved outcome =>
      have delivered := there.deliver elsewhere (.service origin task phase outcome)
      simp only [advance,progress]
      exact delivered

end Site

/-! ## Plans -/

/-- Whoever calls posts signals, not outcomes of activities, and brings only interpreters to a site that
are at a moment of some run, such as new ones. -/
def Demand.Honest : Demand M Env → Prop
  | .call _ (.post event) => ∃ signal, event = .signal signal
  | .replace (some interpreter) => interpreter.Arises
  | _ => True

/-- Whatever a plan is answered, its demands are honest. -/
def Honest : Plan M Env α → Prop
  | .done _ => True
  | .ask demand next => demand.Honest ∧ ∀ answer, Honest (next answer)

theorem Honest.bind {plan : Plan M Env α} {sequel : α → Plan M Env β} (honest : Honest plan)
    (beyond : ∀ result, Honest (sequel result)) : Honest (plan >>= sequel) := by
  induction plan with
  | done result => exact beyond result
  | ask demand next ih => exact ⟨honest.1,fun answer => ih answer (honest.2 answer)⟩

structure Host.Honest (host : Host M Env) : Prop where
  answer : ∀ clocked query, Statechart.Honest (host.answer clocked query)
  notify : ∀ clocked listener snapshot, Statechart.Honest (host.notify clocked listener snapshot)

namespace Site

variable {host : Host M Env} {site after : Site M Env} {number : Nat} {self : Interpreter M}

/-- A call on the interpreter of a number has returned: its frames are off the stack, and every other
call in progress is left as it was. -/
structure Returns (before : Site M Env) (number : Nat) (base : List (Frame M)) (after : Site M Env) : Prop where
  lawful : after.Lawful
  others : ∀ other, other ≠ number → before.Keeps after other
  base : base ≠ [] → ∃ later, after.interpreter? number = some later ∧ later.stack = base

/-- What the functions that carry out plans do, as long as the fuel lasts. -/
structure Runs (host : Host M Env) (fuel : Nat) : Prop where
  follow : ∀ {α : Type} {plan : Plan M Env α} {site after : Site M Env} {result : α}, Honest plan → site.Lawful →
    follow host fuel plan site = some (result,after) → site.Onward after
  grant : ∀ {demand : Demand M Env} {site after : Site M Env} {answer : demand.Answer}, demand.Honest → site.Lawful →
    grant host fuel demand site = some (answer,after) → site.Onward after
  place : ∀ {clocked : Bool} {call : Call M} {number : Nat} {site after : Site M Env} {reply : Reply M},
    (∀ self, site.interpreter? number = some self → (site.update number (self.enter call).1).Lawful) →
      place host fuel clocked call number site = some (reply,after) → site.Onward after
  attend : ∀ {clocked : Bool} {number : Nat} {site after : Site M Env} {self : Interpreter M} {reply : Reply M}
      {calls base : List (Frame M)}, site.Lawful → site.interpreter? number = some self →
    Segment calls → self.stack = calls ++ base →
      attend host fuel clocked number site = some (reply,after) → site.Returns number base after
  settle : ∀ {site after : Site M Env}, site.Lawful → settle host fuel site = some after → site.Onward after
  elapse : ∀ {target : Nat} {site after : Site M Env}, site.Lawful →
    elapse host fuel target site = some after → site.Onward after

namespace Runs

variable {fuel : Nat}

theorem zero (host : Host M Env) : Runs host 0 := by
  refine ⟨?_,?_,?_,?_,?_,?_⟩
  · intro _ _ _ _ _ _ _ gone
    simp [Site.follow] at gone
  · intro _ _ _ _ _ _ gone
    simp [Site.grant] at gone
  · intro _ _ _ _ _ _ _ gone
    simp [Site.place] at gone
  · intro _ _ _ _ _ _ _ _ _ _ _ _ gone
    simp [Site.attend] at gone
  · intro _ _ _ gone
    simp [Site.settle] at gone
  · intro _ _ _ _ gone
    simp [Site.elapse] at gone

theorem follow_succ (runs : Runs host fuel) {plan : Plan M Env α} {result : α} (honest : Honest plan)
    (lawful : site.Lawful) (followed : Site.follow host (fuel + 1) plan site = some (result,after)) :
    site.Onward after := by
  cases plan with
  | done last =>
    simp only [Site.follow,Option.some.injEq,Prod.mk.injEq] at followed
    rw [← followed.2]
    exact .refl lawful
  | ask demand next =>
    simp only [Site.follow] at followed
    split at followed
    · cases followed
    · rename_i answer between granted
      have first := runs.grant honest.1 lawful granted
      exact first.trans (runs.follow (honest.2 answer) first.lawful followed)

theorem grant_succ (runs : Runs host fuel) {demand : Demand M Env} {answer : demand.Answer} (honest : demand.Honest)
    (lawful : site.Lawful) (granted : Site.grant host (fuel + 1) demand site = some (answer,after)) :
    site.Onward after := by
  cases demand with
  | read =>
    simp only [Site.grant] at granted
    cases granted
    exact .refl lawful
  | write env =>
    simp only [Site.grant] at granted
    cases granted
    exact ⟨⟨lawful.arises,lawful.distinct,lawful.known⟩,fun _ self found _ => ⟨self,found,rfl⟩⟩
  | call clocked call =>
    simp only [Site.grant] at granted
    split at granted
    · cases granted
      exact .refl lawful
    · split at granted
      · cases granted
      · rename_i number _ reply between placed
        cases granted
        apply runs.place _ placed
        intro self found
        apply lawful.update
        have arises := lawful.found found
        cases call with
        | start clocked => exact arises.turn (.start clocked)
        | post event =>
          obtain ⟨signal,same⟩ := honest
          subst same
          exact arises.turn (.send signal)
        | stop => exact arises.turn .stop
  | look =>
    simp only [Site.grant] at granted
    cases granted
    exact .refl lawful
  | subscribe listener =>
    simp only [Site.grant] at granted
    split at granted
    · rename_i number self current found
      cases granted
      have there : site.interpreter? number = some self := by simpa [current?,current] using found
      exact ⟨lawful.update number ((lawful.found there).turn (.subscribe listener)),keeps_update_self there rfl⟩
    · cases granted
      exact .refl lawful
  | unsubscribe subscription =>
    simp only [Site.grant] at granted
    split at granted
    · cases granted
      exact .refl lawful
    · rename_i self found
      cases granted
      exact ⟨lawful.update _ ((lawful.found found).turn (.unsubscribe _)),keeps_update_self found rfl⟩
  | settle =>
    simp only [Site.grant] at granted
    split at granted
    · cases granted
    · rename_i between settled
      cases granted
      exact runs.settle lawful settled
  | elapse span =>
    simp only [Site.grant] at granted
    split at granted
    · cases granted
    · rename_i between elapsed
      cases granted
      exact runs.elapse lawful elapsed
  | replace interpreter =>
    simp only [Site.grant] at granted
    cases granted
    refine ⟨lawful.replace ?_,site.keeps_replace interpreter⟩
    intro self same
    rw [same] at honest
    exact honest

theorem place_succ (runs : Runs host fuel) {clocked : Bool} {call : Call M} {reply : Reply M}
    (entered : ∀ self, site.interpreter? number = some self → (site.update number (self.enter call).1).Lawful)
    (placed : Site.place host (fuel + 1) clocked call number site = some (reply,after)) : site.Onward after := by
  simp only [Site.place] at placed
  split at placed
  · cases placed
  · rename_i self found
    have lawful := entered self found
    have stands := self.enter_cases call
    generalize self.enter call = step at lawful stands placed
    obtain ⟨next,answer⟩ := step
    rcases stands with ⟨⟨_,replied⟩,same⟩ | ⟨silent,calls,segment,stack⟩
    · simp only at replied
      subst replied
      cases placed
      exact ⟨lawful.sweep,fun other => (keeps_update_self found same other).trans (keeps_sweep _ _)⟩
    · simp only at silent
      subst silent
      have there : (site.update number next).interpreter? number = some next := by
        rw [interpreter?_update,found]
        simp
      have returns := runs.attend lawful there segment stack placed
      refine ⟨returns.lawful,?_⟩
      intro other
      by_cases here : other = number
      · subst here
        intro earlier before busy
        rw [found] at before
        cases before
        exact returns.base busy
      · exact (site.keeps_update here next).trans (returns.others other here)

theorem attend_succ (runs : Runs host fuel) (honest : host.Honest) {clocked : Bool} {reply : Reply M}
    {calls base : List (Frame M)} (lawful : site.Lawful) (found : site.interpreter? number = some self)
    (segment : Segment calls) (stack : self.stack = calls ++ base)
    (attended : Site.attend host (fuel + 1) clocked number site = some (reply,after)) :
    site.Returns number base after := by
  have busy : self.stack ≠ [] := by
    rw [stack]
    cases segment <;> simp
  have goOn : ∀ {between : Site M Env} {later next : Interpreter M} {rest : List (Frame M)},
      site.Onward between → between.interpreter? number = some later → next.Arises → Segment rest →
        next.stack = rest ++ base →
        Site.attend host fuel clocked number (between.update number next) = some (reply,after) →
          site.Returns number base after := by
    intro between later next rest onward there arises segment stack attended
    have standing : (between.update number next).interpreter? number = some next := by
      rw [interpreter?_update,there]
      simp
    have returns := runs.attend (onward.lawful.update number arises) standing segment stack attended
    refine ⟨returns.lawful,?_,returns.base⟩
    intro other different
    exact ((onward.keeps other).trans (between.keeps_update different next)).trans (returns.others other different)
  simp only [Site.attend,found] at attended
  split at attended
  · rename_i query next asked
    split at attended
    · cases attended
    · rename_i answer between followed
      have onward := runs.follow (honest.answer clocked query) lawful followed
      obtain ⟨later,there,same⟩ := onward.keeps number self found busy
      have waits : later.prompt = some (.query query next) := (Interpreter.prompt_congr same).trans asked
      obtain ⟨rest,resumed,stands⟩ := Interpreter.resume_segment segment (same.trans stack) waits (next answer)
      rw [there] at attended
      exact goOn onward there ((onward.lawful.found there).turn (.answer waits answer)) resumed stands attended
  · rename_i listener snapshot asked
    split at attended
    · cases attended
    · rename_i answer between followed
      have onward := runs.follow (honest.notify clocked listener snapshot) lawful followed
      obtain ⟨later,there,same⟩ := onward.keeps number self found busy
      have waits : later.prompt = some (.notify listener snapshot) := (Interpreter.prompt_congr same).trans asked
      obtain ⟨_,rest,turn,told,stands⟩ := Interpreter.notified_segment segment (same.trans stack) waits
      rw [there] at attended
      exact goOn onward there ((onward.lawful.found there).turn turn) told stands attended
  · rename_i free
    have arises := (lawful.found found).turn (.go free)
    have stands := Interpreter.tick_segment segment stack free
    generalize self.tick = step at arises stands attended
    obtain ⟨next,answer⟩ := step
    rcases stands with ⟨⟨_,replied⟩,same⟩ | ⟨silent,rest,going,stands⟩
    · simp only at replied
      subst replied
      cases attended
      have there : (site.update number next).interpreter? number = some next := by
        rw [interpreter?_update,found]
        simp
      refine ⟨(lawful.update number arises).sweep,?_,?_⟩
      · intro other different
        exact (site.keeps_update different next).trans (keeps_sweep _ _)
      · intro some
        exact ⟨next,interpreter?_sweep there (by rw [same]; exact some),same⟩
    · simp only at silent
      subst silent
      exact goOn (.refl lawful) found arises going stands attended

theorem settle_succ (runs : Runs host fuel) (lawful : site.Lawful)
    (settled : Site.settle host (fuel + 1) site = some after) : site.Onward after := by
  simp only [Site.settle] at settled
  split at settled
  · cases settled
    exact .refl lawful
  · rename_i number place activity ready
    have has : site.Has number place activity := by
      split at ready
      · rename_i queued
        cases ready
        exact lawful.queued queued
      · split at ready
        · cases ready
        · rename_i first
          split at ready
          · cases ready
            exact lawful.asleep (mem_asleep first)
          · cases ready
    have goes := advance_runs lawful host has
    generalize site.advance host number place activity = step at goes settled
    obtain ⟨between,event⟩ := step
    cases event with
    | none =>
      have onward : site.Onward between := ⟨goes.2,goes.1⟩
      exact onward.trans (runs.settle onward.lawful settled)
    | some event =>
      simp only at settled
      split at settled
      · cases settled
      · rename_i reply later placed
        have delivered := runs.place goes.2 placed
        have onward : site.Onward later := ⟨delivered.lawful,fun other => (goes.1 other).trans (delivered.keeps other)⟩
        exact onward.trans (runs.settle onward.lawful settled)

theorem elapse_succ (runs : Runs host fuel) {target : Nat} (lawful : site.Lawful)
    (elapsed : Site.elapse host (fuel + 1) target site = some after) : site.Onward after := by
  simp only [Site.elapse] at elapsed
  split at elapsed
  · cases elapsed
  · rename_i between settled
    have onward := runs.settle lawful settled
    have later : ∀ now, site.Onward { between with now } := fun _ =>
      ⟨⟨onward.lawful.arises,onward.lawful.distinct,onward.lawful.known⟩,onward.keeps⟩
    split at elapsed
    · cases elapsed
      exact later target
    · rename_i due _ _
      split at elapsed
      · exact (later due).trans (runs.elapse (later due).lawful elapsed)
      · cases elapsed
        exact later target

end Runs

theorem runs (honest : host.Honest) (fuel : Nat) : Runs host fuel := by
  induction fuel with
  | zero => exact .zero host
  | succ fuel ih =>
    exact ⟨ih.follow_succ,ih.grant_succ,ih.place_succ,ih.attend_succ honest,ih.settle_succ,ih.elapse_succ⟩

/-- Whatever a plan does at a site, every interpreter there is at a moment of a run of its own, and every
call that was in progress before is in progress still. -/
theorem follow_runs (honest : host.Honest) {fuel : Nat} {plan : Plan M Env α} {result : α} (plain : Honest plan)
    (lawful : site.Lawful) (followed : follow host fuel plan site = some (result,after)) :
    (∀ entry ∈ after.interpreters, Gathering.Reachable entry.2.graph entry.2.options ⟨entry.2,[]⟩) ∧
      ∀ number, site.Keeps after number := by
  have onward := (runs honest fuel).follow plain lawful followed
  exact ⟨fun entry member => (onward.lawful.arises entry member).reachable,onward.keeps⟩

end Site

end Statechart
