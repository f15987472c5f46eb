import Mathlib.Data.List.Forall2
import Statechart.Bench.Vocabulary
import Statechart.Proofs.Limits
import Statechart.Proofs.Publications

/-!
# Leniency: runs under a higher limit

An interpreter that allows more eventless transitions does the same as one that allows fewer, deed for deed, as
long as that one does not fail to settle (`Annals.lenient`). Together with what the limit makes of one macrostep,
this is all that there is to it (`microstep_limit`).
-/
namespace Statechart

variable {M : Machine} {Env : Type} {graph : Graph M} {options : Options}

/-! ## Interpreters that allow more -/

/-- One call in progress goes on like another one, as far as that one settles. -/
inductive Frame.Extends : Frame M → Frame M → Prop where
  | starting {pending further : Pending M} (onward : pending.Extends Unsettled further) :
      Extends (.starting pending) (.starting further)
  | draining (drainer : Drainer M) (firstError : Option (Failure M.State)) :
      Extends (.draining drainer firstError) (.draining drainer firstError)
  | reacting (drainer : Drainer M) (firstError : Option (Failure M.State)) (event : Event M)
      {pending further : Pending M} (onward : pending.Extends Unsettled further) :
      Extends (.reacting drainer firstError event pending) (.reacting drainer firstError event further)
  | publishing (snapshot : Snapshot M.State M.Context) (unheard : List (Nat × M.Listener)) (sequel : Sequel) :
      Extends (.publishing snapshot unheard sequel) (.publishing snapshot unheard sequel)

/-- The calls of one caller go on like those of another. -/
abbrev Stack.Extends : List (Frame M) → List (Frame M) → Prop := List.Forall₂ Frame.Extends

namespace Interpreter

/-- The same interpreter under another limit, in the middle of other calls. -/
def lenient (self : Interpreter M) (limit : UInt64) (stack : List (Frame M)) : Interpreter M :=
  { self with options := self.options.withMaxMicrosteps limit, stack }

variable (self : Interpreter M) (limit : UInt64) {stack : List (Frame M)}

/-- A call enters in the same way. -/
theorem enter_lenient (higher : self.options.maxMicrosteps ≤ limit) (related : Stack.Extends self.stack stack)
    (call : Call M) :
    ∃ later, ((self.lenient limit stack).enter call).1 = (self.enter call).1.lenient limit later ∧
      ((self.lenient limit stack).enter call).2 = (self.enter call).2 ∧
      Stack.Extends (self.enter call).1.stack later := by
  suffices whole : ∃ later,
      (self.lenient limit stack).enter call = ((self.enter call).1.lenient limit later,(self.enter call).2) ∧
      Stack.Extends (self.enter call).1.stack later by
    obtain ⟨later,same,onward⟩ := whole
    exact ⟨later,by rw [same],by rw [same],onward⟩
  cases call with
  | start clocked =>
    by_cases unstarted : self.core.status = .notStarted
    · by_cases clockless : (!clocked && self.graph.requiresClock) = true
      · exact ⟨stack,by simp [enter,start,lenient,unstarted,clockless],
          by simpa [enter,start,unstarted,clockless] using related⟩
      · refine ⟨.starting (self.graph.begin limit).run :: stack,?_,?_⟩
        · simp [enter,start,lenient,unstarted,clockless,push,Options.withMaxMicrosteps]
        · simp only [enter,start,unstarted,clockless]
          exact .cons (.starting (self.graph.begin_extends higher)) related
    · exact ⟨stack,by simp [enter,start,lenient,unstarted],by simpa [enter,start,unstarted] using related⟩
  | post event =>
    cases status : self.core.status with
    | running =>
      cases held : self.draining with
      | true => exact ⟨stack,by simp [enter,post,lenient,status,held],by simpa [enter,post,status,held] using related⟩
      | false =>
        refine ⟨.draining .poster none :: stack,by simp [enter,post,lenient,status,held,push],?_⟩
        simpa [enter,post,status,held,push] using ⟨.draining .poster none,related⟩
    | _ => exact ⟨stack,by simp [enter,post,lenient,status],by simpa [enter,post,status] using related⟩
  | stop =>
    by_cases past : self.core.status = .stopped ∨ self.core.status = .failed
    · refine ⟨stack,?_,?_⟩
      · rcases past with status | status <;> simp [enter,stop,lenient,status]
      · rcases past with status | status <;> simpa [enter,stop,status] using related
    · refine ⟨.publishing (self.core.close .stopped self.core.fault).snapshot self.registry.entries .stopped :: stack,
        ?_,?_⟩
      · cases status : self.core.status <;> simp_all [enter,stop,lenient,close,publish,push]
      · cases status : self.core.status <;> simp_all [enter,stop,close,publish,push,Frame.Extends.publishing]

/-- A macrostep that has not settled within the limit is on top of the stack. -/
def Exhausted (self : Interpreter M) : Prop :=
  ∃ frame below result, self.stack = frame :: below ∧ frame.pending? = some (.done result) ∧ Unsettled result

section
variable {self : Interpreter M} {limit : UInt64} {rest stack : List (Frame M)} (related : Stack.Extends rest stack)
  (other : List (Frame M)) (drainer : Drainer M) (firstError : Option (Failure M.State))

include related

theorem finishStart_lenient (step : Step M) :
    ∃ later, (self.lenient limit other).finishStart step stack = (self.finishStart step rest).lenient limit later ∧
      Stack.Extends (self.finishStart step rest).stack later := by
  have core : (self.lenient limit other).core = self.core := rfl
  simp only [finishStart,core]
  cases self.core.admits step with
  | true =>
    exact ⟨.publishing (self.core.commit step).snapshot self.registry.entries .startCommitted ::
        .draining (.start (self.core.commit step).snapshot) none :: stack,rfl,
      .cons (.publishing _ _ _) (.cons (.draining _ _) related)⟩
  | false => exact ⟨.draining (.start self.core.snapshot) none :: stack,rfl,.cons (.draining _ _) related⟩

theorem finishStep_lenient (step : Step M) :
    ∃ later, (self.lenient limit other).finishStep drainer firstError step stack =
        (self.finishStep drainer firstError step rest).lenient limit later ∧
      Stack.Extends (self.finishStep drainer firstError step rest).stack later := by
  have core : (self.lenient limit other).core = self.core := rfl
  simp only [finishStep,core]
  cases self.core.admits step with
  | true =>
    exact ⟨.publishing (self.core.commit step).snapshot self.registry.entries .stepCommitted ::
        .draining drainer firstError :: stack,rfl,.cons (.publishing _ _ _) (.cons (.draining _ _) related)⟩
  | false => exact ⟨.draining drainer firstError :: stack,rfl,.cons (.draining _ _) related⟩

theorem abandonStep_lenient (event : Event M) (failure : Failure M.State) :
    ∃ later, (self.lenient limit other).abandonStep drainer firstError event failure stack =
        (self.abandonStep drainer firstError event failure rest).lenient limit later ∧
      Stack.Extends (self.abandonStep drainer firstError event failure rest).stack later := by
  have status : (self.lenient limit other).core.status = self.core.status := rfl
  simp only [abandonStep,status]
  cases (event.origin.isSome && decide (self.core.status = .running)) with
  | true =>
    exact ⟨.publishing (self.core.close .failed (some failure)).snapshot self.registry.entries .faulted ::
        .draining drainer (some (firstError.getD failure)) :: stack,rfl,
      .cons (.publishing _ _ _) (.cons (.draining _ _) related)⟩
  | false => exact ⟨.draining drainer (some (firstError.getD failure)) :: stack,rfl,.cons (.draining _ _) related⟩

theorem processNext_lenient (higher : self.options.maxMicrosteps ≤ limit) (event : Event M) (mail : List (Event M))
    (top : self.stack = .draining drainer firstError :: rest) (same : other = .draining drainer firstError :: stack) :
    ∃ later, (self.lenient limit other).processNext drainer firstError event mail stack =
        (self.processNext drainer firstError event mail rest).lenient limit later ∧
      Stack.Extends (self.processNext drainer firstError event mail rest).stack later := by
  have core : (self.lenient limit other).core = self.core := rfl
  simp only [processNext,core]
  cases (decide (self.core.status = .running) && self.core.accepts event) with
  | true =>
    exact ⟨.reacting drainer firstError event
        (self.graph.react limit self.core.state self.core.context event).run :: stack,rfl,
      .cons (.reacting _ _ _ (self.graph.react_extends higher _ _ _)) related⟩
  | false =>
    refine ⟨other,rfl,?_⟩
    simp only [top,same]
    exact .cons (.draining _ _) related

end

theorem tick_lenient {self : Interpreter M} {limit : UInt64} {stack : List (Frame M)}
    (higher : self.options.maxMicrosteps ≤ limit) (related : Stack.Extends self.stack stack)
    (settles : ¬ self.Exhausted) :
    ∃ later, (self.lenient limit stack).tick.1 = self.tick.1.lenient limit later ∧
      (self.lenient limit stack).tick.2 = self.tick.2 ∧ Stack.Extends self.tick.1.stack later := by
  suffices whole : ∃ later, (self.lenient limit stack).tick = (self.tick.1.lenient limit later,self.tick.2) ∧
      Stack.Extends self.tick.1.stack later by
    obtain ⟨later,same,onward⟩ := whole
    exact ⟨later,by rw [same],by rw [same],onward⟩
  have mail : (self.lenient limit stack).mailbox = self.mailbox := rfl
  have other : (self.lenient limit stack).stack = stack := rfl
  generalize top : self.stack = calls at related
  rw [tick,other,tick,top]
  cases related with
  | nil => exact ⟨[],rfl,by rw [top]; exact .nil⟩
  | @cons _ _ below rest first related =>
    cases first with
    | @starting pending _ onward =>
      cases onward with
      | done result =>
        cases result with
        | ok step =>
          obtain ⟨later,same,related⟩ := finishStart_lenient related _ step
          exact ⟨later,congrArg (·,none) same,related⟩
        | error failure => exact ⟨rest,rfl,related⟩
      | @ask question _ further onward =>
        exact ⟨.starting (.ask question further) :: rest,rfl,by rw [top]; exact .cons (.starting (.ask onward)) related⟩
      | beyond ended _ => exact absurd ⟨_,_,_,top,rfl,ended⟩ settles
    | draining drainer firstError =>
      simp only [mail]
      cases self.mailbox with
      | nil => exact ⟨rest,rfl,related⟩
      | cons event mail =>
        obtain ⟨later,same,related⟩ := processNext_lenient related _ drainer firstError higher event mail top rfl
        exact ⟨later,congrArg (·,none) same,related⟩
    | reacting drainer firstError event onward =>
      cases onward with
      | done result =>
        cases result with
        | ok step =>
          obtain ⟨later,same,related⟩ := finishStep_lenient related _ drainer firstError step
          exact ⟨later,congrArg (·,none) same,related⟩
        | error failure =>
          obtain ⟨later,same,related⟩ := abandonStep_lenient related _ drainer firstError event failure
          exact ⟨later,congrArg (·,none) same,related⟩
      | @ask question _ further onward =>
        exact ⟨.reacting drainer firstError event (.ask question further) :: rest,rfl,
          by rw [top]; exact .cons (.reacting _ _ _ (.ask onward)) related⟩
      | beyond ended _ => exact absurd ⟨_,_,_,top,rfl,ended⟩ settles
    | publishing snapshot unheard sequel =>
      cases unheard with
      | nil => cases sequel <;> exact ⟨rest,rfl,related⟩
      | cons entry unheard =>
        exact ⟨.publishing snapshot (entry :: unheard) sequel :: rest,rfl,
          by rw [top]; exact .cons (.publishing _ _ _) related⟩

/-- The host is asked for the same, unless the first interpreter is exhausted. -/
theorem prompt_lenient {self : Interpreter M} {limit : UInt64} {stack : List (Frame M)}
    (related : Stack.Extends self.stack stack) (settles : ¬ self.Exhausted) (free : self.prompt = none) :
    (self.lenient limit stack).prompt = none := by
  have other : (self.lenient limit stack).stack = stack := rfl
  generalize top : self.stack = calls at related
  rw [prompt,other]
  cases related with
  | nil => rfl
  | cons first _ =>
    cases first with
    | starting onward =>
      cases onward with
      | done => rfl
      | ask _ => simp [prompt,top] at free
      | beyond ended _ => exact absurd ⟨_,_,_,top,rfl,ended⟩ settles
    | draining _ _ => rfl
    | reacting _ _ _ onward =>
      cases onward with
      | done => rfl
      | ask _ => simp [prompt,top] at free
      | beyond ended _ => exact absurd ⟨_,_,_,top,rfl,ended⟩ settles
    | publishing _ unheard _ =>
      cases unheard with
      | nil => rfl
      | cons entry unheard => simp [prompt,top] at free

/-- Snapshots are produced and listeners are called in the same way. -/
theorem notes_lenient {self next : Interpreter M} {limit : UInt64} {stack later : List (Frame M)} (deed : Deed M)
    (before : Stack.Extends self.stack stack) (after : Stack.Extends next.stack later) :
    (self.lenient limit stack).notes (next.lenient limit later) deed = self.notes next deed := by
  have numbers : (self.lenient limit stack).registry = self.registry := rfl
  have levels : (next.lenient limit later).stack = later := rfl
  have length : (self.lenient limit stack).stack.length = self.stack.length := before.length_eq.symm
  generalize top : next.stack = calls at after
  cases after with
  | nil => cases deed <;> simp only [notes,levels,top]
  | cons first rest =>
    have below := rest.length_eq
    cases first <;> cases deed <;> simp only [notes,levels,top,numbers,length,below]

end Interpreter

/-- What is returned with a deed, if a call returns with it. -/
def Interpreter.returned? (self : Interpreter M) : Deed M → Option (Reply M)
  | .start clocked => (self.start clocked).2
  | .send signal => (self.post (.signal signal)).2
  | .stop => self.stop.2
  | .deliver place event => ((self.setActivity place none).post event).2
  | .go => self.tick.2
  | _ => none

/-- Whatever is done, it can be done under a higher limit, and the same is returned. -/
theorem Turn.lenient {self next : Interpreter M} {deed : Deed M} {limit : UInt64} {stack : List (Frame M)}
    (turn : Turn self deed next) (higher : self.options.maxMicrosteps ≤ limit)
    (related : Stack.Extends self.stack stack) (settles : deed = .go → ¬ self.Exhausted) :
    ∃ later, Turn (self.lenient limit stack) deed (next.lenient limit later) ∧ Stack.Extends next.stack later ∧
      (self.lenient limit stack).returned? deed = self.returned? deed := by
  have alike : ∀ {later : List (Frame M)} {after : Interpreter M}, Turn (self.lenient limit stack) deed after →
      after = next.lenient limit later → Turn (self.lenient limit stack) deed (next.lenient limit later) :=
    fun turn same => same ▸ turn
  cases turn with
  | start clocked =>
    obtain ⟨later,same,returns,onward⟩ := self.enter_lenient limit higher related (.start clocked)
    exact ⟨later,alike (.start clocked) same,onward,returns⟩
  | send signal =>
    obtain ⟨later,same,returns,onward⟩ := self.enter_lenient limit higher related (.post (.signal signal))
    exact ⟨later,alike (.send signal) same,onward,returns⟩
  | stop =>
    obtain ⟨later,same,returns,onward⟩ := self.enter_lenient limit higher related .stop
    exact ⟨later,alike .stop same,onward,returns⟩
  | subscribe listener => exact ⟨stack,.subscribe listener,related,rfl⟩
  | unsubscribe number => exact ⟨stack,.unsubscribe number,related,rfl⟩
  | @answer query sequel asked given =>
    rcases Interpreter.resume_cases asked with ⟨below,top,resumed⟩ | ⟨drainer,firstError,event,below,top,resumed⟩ <;>
      rw [top] at related <;> rw [resumed]
    · cases related with
      | @cons _ _ _ rest first related =>
        cases first with
        | starting onward =>
          cases onward with
          | @ask _ _ further onward =>
            exact ⟨.starting (further given) :: rest,.answer rfl given,.cons (.starting (onward given)) related,rfl⟩
    · cases related with
      | @cons _ _ _ rest first related =>
        cases first with
        | reacting _ _ _ onward =>
          cases onward with
          | @ask _ _ further onward =>
            exact ⟨.reacting drainer firstError event (further given) :: rest,.answer rfl given,
              .cons (.reacting _ _ _ (onward given)) related,rfl⟩
  | @told snapshot entry unheard sequel _ top =>
    rw [top] at related
    rw [Interpreter.notified_eq top]
    cases related with
    | @cons _ _ _ rest first related =>
      cases first with
      | publishing _ _ _ =>
        have tells : Turn (self.lenient limit (.publishing snapshot (entry :: unheard) sequel :: rest))
            (.told entry.1 snapshot) _ := .told rfl
        exact ⟨.publishing snapshot unheard sequel :: rest,tells,.cons (.publishing _ _ _) related,rfl⟩
  | go free =>
    obtain ⟨later,same,returns,onward⟩ := Interpreter.tick_lenient higher related (settles rfl)
    exact ⟨later,alike (.go (Interpreter.prompt_lenient related (settles rfl) free)) same,onward,returns⟩
  | sleep found continues => exact ⟨stack,.sleep found continues,related,rfl⟩
  | @deliver place activity event found ends =>
    obtain ⟨later,same,returns,onward⟩ :=
      (self.setActivity place none).enter_lenient limit higher related (.post event)
    exact ⟨later,alike (.deliver found ends) same,onward,returns⟩

/-! ## Runs -/

namespace Gathering

/-- A gathering around an interpreter that allows more: everything is the same, and macrosteps in progress go on further
than those here, if there is a difference. -/
structure Extends (limit : UInt64) (here other : Gathering M) : Prop where
  same : other.self = here.self.lenient limit other.self.stack
  stack : Stack.Extends here.self.stack other.self.stack
  waiting : List.Forall₂ Stack.Extends here.waiting other.waiting

variable {here next other : Gathering M} {deed : Deed M} {limit : UInt64}

theorem split_waiting {before after : List (List (Frame M))} {stack : List (Frame M)} {others : List (List (Frame M))}
    (related : List.Forall₂ Stack.Extends (before ++ stack :: after) others) :
    ∃ first middle last, others = first ++ middle :: last ∧ List.Forall₂ Stack.Extends before first ∧
      Stack.Extends stack middle ∧ List.Forall₂ Stack.Extends after last := by
  induction before generalizing others with
  | nil =>
    cases related with
    | cons middle last => exact ⟨[],_,_,rfl,.nil,middle,last⟩
  | cons head before ih =>
    cases related with
    | cons first rest =>
      obtain ⟨_,middle,last,rfl,firsts,among,lasts⟩ := ih rest
      exact ⟨_ :: _,middle,last,rfl,.cons first firsts,among,lasts⟩

/-- Whatever is done here can be done there, with the same notes on it, and the same is returned. -/
theorem Moves.lenient (moves : here.Moves deed next) (higher : here.self.options.maxMicrosteps ≤ limit)
    (related : here.Extends limit other) (settles : deed = .go → ¬ here.self.Exhausted) :
    ∃ later, other.Moves deed later ∧ next.Extends limit later ∧
      other.self.notes later.self deed = here.self.notes next.self deed ∧
      other.self.returned? deed = here.self.returned? deed := by
  obtain ⟨self,others⟩ := other
  obtain ⟨same,levels,waits⟩ := related
  simp only at same levels waits
  generalize self.stack = stack at same levels
  subst same
  cases moves with
  | turn turn =>
    obtain ⟨later,turns,onward,returns⟩ := turn.lenient higher levels settles
    exact ⟨⟨_,others⟩,.turn turns,⟨rfl,onward,waits⟩,Interpreter.notes_lenient _ levels onward,returns⟩
  | @back self mine before after =>
    obtain ⟨first,middle,last,rfl,firsts,among,lasts⟩ := split_waiting waits
    refine ⟨_,.back,⟨rfl,among,?_⟩,rfl,rfl⟩
    exact List.rel_append firsts (.cons levels lasts)
  | join => exact ⟨_,.join,⟨rfl,.nil,.cons levels waits⟩,rfl,rfl⟩

end Gathering

/-- A moment under a higher limit: the same is done and returned, the same event is handed on and the same step is
committed. -/
structure Moment.Matches (limit : UInt64) (moment other : Moment M) : Prop where
  here : moment.here.Extends limit other.here
  deed : other.deed = moment.deed
  returned : other.here.self.returned? other.deed = moment.here.self.returned? moment.deed
  handed : other.handed? = moment.handed?
  step : other.step? = moment.step?

namespace Gathering

variable {here other : Gathering M} {deed : Deed M} {trail : List (Moment M)} {log : List (Note M)} {limit : UInt64}

theorem Extends.handed? (related : here.Extends limit other) (deed : Deed M) :
    (⟨other,deed⟩ : Moment M).handed? = (⟨here,deed⟩ : Moment M).handed? := by
  have mail : other.self.mailbox = here.self.mailbox := by rw [related.same]; rfl
  have levels := related.stack
  cases deed with
  | go =>
    simp only [Moment.handed?,mail]
    generalize here.self.stack = calls at levels
    generalize other.self.stack = others at levels
    cases levels with
    | nil => rfl
    | cons first _ => cases first <;> rfl
  | _ => rfl

theorem Extends.step? (related : here.Extends limit other) (settles : deed = .go → ¬ here.self.Exhausted) :
    (⟨other,deed⟩ : Moment M).step? = (⟨here,deed⟩ : Moment M).step? := by
  have core : other.self.core = here.self.core := by rw [related.same]; rfl
  have levels := related.stack
  cases deed with
  | go =>
    simp only [Moment.step?,core]
    generalize top : here.self.stack = calls at levels
    generalize other.self.stack = others at levels
    cases levels with
    | nil => rfl
    | cons first _ =>
      cases first with
      | starting onward =>
        cases onward with
        | beyond ended _ => exact absurd ⟨_,_,_,top,rfl,ended⟩ (settles rfl)
        | _ => rfl
      | reacting _ _ _ onward =>
        cases onward with
        | beyond ended _ => exact absurd ⟨_,_,_,top,rfl,ended⟩ (settles rfl)
        | _ => rfl
      | _ => rfl
  | _ => rfl

/-- A run in which every macrostep settles goes the same way under a higher limit. -/
theorem Annals.lenient (annals : (fresh graph options).Annals trail log here) (higher : options.maxMicrosteps ≤ limit)
    (settles : ∀ moment ∈ trail, moment.deed = .go → ¬ moment.here.self.Exhausted) :
    ∃ trail' other, (fresh graph (options.withMaxMicrosteps limit)).Annals trail' log other ∧ here.Extends limit other ∧
      List.Forall₂ (Moment.Matches limit) trail trail' := by
  induction annals with
  | here => exact ⟨[],_,.here,⟨rfl,.nil,.nil⟩,.nil⟩
  | @onward trail log deed here next annals moves ih =>
    obtain ⟨trail',other,annals',related,matched⟩ :=
      ih fun moment member => settles moment (List.mem_append_left _ member)
    have now : deed = .go → ¬ here.self.Exhausted :=
      settles ⟨here,deed⟩ (List.mem_append_right _ (List.mem_singleton_self _))
    have allowed : here.self.options.maxMicrosteps ≤ limit := by
      rw [annals.run.reachable.sound.options_eq]
      exact higher
    obtain ⟨later,moves',onward,notes,returns⟩ := moves.lenient allowed related now
    have further := annals'.onward moves'
    rw [notes] at further
    refine ⟨_,later,further,onward,List.rel_append matched (.cons ?_ .nil)⟩
    exact ⟨related,rfl,returns,related.handed? deed,related.step? now⟩

end Gathering

/-! ## What the limit is there for -/

open Gathering in
/-- The limit on eventless transitions is exact, and makes no difference otherwise. Which chain follows upon the arrival
at the initial state, or upon the transition that an event takes, does not depend on it. If no action fails as long
as the limit lasts, settling comes to a step just if the chain ends by then; otherwise it fails where the limit has
been reached, with all that and no more having been done. A counter of 64 bits does for it. A step is the same
under every higher limit, and so is a run in which every macrostep settles. -/
theorem microstep_limit (setting : Setting M Env) :
    (∀ limit opening state start path now, (setting.limited limit).Reaches opening state start path now ↔
      setting.Reaches opening state start path now) ∧
    (∀ step before result env, step.taken = true →
      (setting.graph.settle setting.limit setting.event setting.limit.toNat step).run.run setting.answer before =
        (result,env) →
      setting.Unfailing setting.limit.toNat [] step.state ⟨step.context,before,step.entry⟩ →
        setting.Bounded [] step.records step.state ⟨step.context,before,step.entry⟩ result env) ∧
    (∀ state context before leg result env,
      setting.First ⟨context,before,none⟩ (setting.graph.candidates state setting.event) leg →
      (setting.graph.react setting.limit state context setting.event).run.run setting.answer before = (result,env) →
      setting.Unfailing setting.limit.toNat (leg.chores setting.graph state) (leg.destination state)
          ⟨context,before,none⟩ →
        setting.Bounded (leg.chores setting.graph state) (leg.records state setting.event.label) (leg.destination state)
          ⟨context,before,none⟩ result env) ∧
    (∀ before result env, setting.event = .init →
      (setting.graph.begin setting.limit).run.run setting.answer before = (result,env) →
      setting.Unfailing setting.limit.toNat (setting.graph.arrival setting.graph.initial) setting.graph.initial
          ⟨setting.graph.context,before,none⟩ →
        setting.Bounded (setting.graph.arrival setting.graph.initial) [] setting.graph.initial
          ⟨setting.graph.context,before,none⟩ result env) ∧
    (∀ step, setting.graph.settleCounting setting.limit setting.event 0 step =
      some <$> setting.graph.settle setting.limit setting.event setting.limit.toNat step) ∧
    (∀ larger before step env, setting.limit ≤ larger →
      (∀ state context,
        (setting.graph.react setting.limit state context setting.event).run.run setting.answer before = (.ok step,env) →
        (setting.graph.react larger state context setting.event).run.run setting.answer before = (.ok step,env)) ∧
      ((setting.graph.begin setting.limit).run.run setting.answer before = (.ok step,env) →
        (setting.graph.begin larger).run.run setting.answer before = (.ok step,env))) ∧
    ∀ options trail log here larger, (fresh setting.graph options).Annals trail log here →
      options.maxMicrosteps ≤ larger →
      (∀ moment ∈ trail, moment.deed = .go → ¬ moment.here.self.Exhausted) →
        ∃ trail' other, (fresh setting.graph (options.withMaxMicrosteps larger)).Annals trail' log other ∧
          here.Extends larger other ∧ List.Forall₂ (Moment.Matches larger) trail trail' := by
  refine ⟨?_,?_,?_,?_,?_,?_,?_⟩
  · intro limit opening state start path now
    exact setting.reaches_limited limit
  · intro step before result env taken runs unfailing
    exact ((setting.settle_run _ _ _ taken).mp runs).bounded unfailing
  · intro state context before leg result env first runs unfailing
    cases (setting.react_run state context before).mp runs with
    | untaken refuses => exact absurd refuses first.not_refuses
    | taken also settles =>
      cases first.unique also
      exact settles.bounded unfailing
  · intro before result env initial runs unfailing
    exact ((setting.begin_run initial before).mp runs).bounded unfailing
  · intro step
    exact setting.graph.settleCounting_eq _ _ _ _ _ (Nat.zero_add _)
  · intro larger before step env higher
    constructor
    · intro state context runs
      exact (setting.graph.react_extends higher state context setting.event).run runs id
    · intro runs
      exact (setting.graph.begin_extends higher).run runs id
  · intro options trail log here larger annals higher settles
    exact annals.lenient higher settles

/-- A chart with two eventless transitions, one after the other. -/
def stairs : Graph Bench.machine where
  id := "stairs"
  initial := .a
  context := {}
  nodes := [
    { Node.empty (M := Bench.machine) .a with always := [⟨none,[],some .b⟩] },
    { Node.empty (M := Bench.machine) .b with always := [⟨none,[],some .c⟩] },
    .empty .c]

namespace Setting

/-- Somebody starts the chart whose guards always pass and whose actions never fail. -/
def climbing (limit : UInt64) : Setting Bench.machine Unit where
  graph := stairs
  limit := limit
  event := .init
  answer := fun
    | .check _ _ _, env => (true,env)
    | .perform ⟨_,.assign,_⟩ context _, env => (context,env)
    | .perform ⟨_,.effect,_⟩ _ _, env => (.ok (),env)
    | .perform ⟨_,.load,_⟩ context _, env => (.ok context,env)
    | .create _ _ _, env => (.instant (.ok 0),env)

/-- The chain leads over both transitions and ends there. -/
theorem climbing_ends (limit : UInt64) :
    (climbing limit).Ends (stairs.arrival .a) .a ⟨{},(),none⟩ [⟨[],⟨none,[],some .b⟩⟩,⟨[],⟨none,[],some .c⟩⟩]
      ⟨{},(),some ⟨none,none⟩⟩ := by
  refine ⟨⟨?_,rfl⟩,.nil _⟩
  intro before leg after split
  rcases before with _ | ⟨first,_ | ⟨second,rest⟩⟩
  · cases split
    exact ⟨_,rfl,.here rfl⟩
  · cases split
    exact ⟨_,rfl,.here rfl⟩
  · simp at split

theorem climbing_unfailing (limit : UInt64) (allowed : Nat) :
    (climbing limit).Unfailing allowed (stairs.arrival .a) .a ⟨{},(),none⟩ := by
  intro path _ follows
  obtain ⟨rest,whole⟩ := (climbing_ends limit).longest follows
  rcases path with _ | ⟨first,_ | ⟨second,_ | ⟨third,further⟩⟩⟩
  · exact ⟨_,rfl⟩
  · cases whole
    exact ⟨_,rfl⟩
  · cases whole
    exact ⟨_,rfl⟩
  · simp at whole

open Gathering in
/-- With two transitions allowed the chart settles, with one it does not, and a run in which it has settled is the same
with any number above. -/
theorem climbing_microstep_limit :
    (∃ step, (stairs.begin 2).run.run (climbing 2).answer () = (.ok step,()) ∧ step.state = .c) ∧
    (stairs.begin 1).run.run (climbing 1).answer () = (.error (.microstepLimit .b 1),()) ∧
    ∃ trail other log, (fresh stairs (Options.withMaxMicrosteps {} 64)).Annals trail log other ∧
      other.self.core.state = .c ∧ trail.map Moment.deed = [.start true,.go] := by
  refine ⟨?_,?_,?_⟩
  · obtain ⟨_,_,_,bounded,_⟩ := microstep_limit (climbing 2)
    obtain ⟨settled,_⟩ := (bounded () _ _ rfl rfl (climbing_unfailing 2 2)).settled _ _ (by decide) (climbing_ends 2)
    exact ⟨_,Prod.ext settled rfl,rfl⟩
  · obtain ⟨_,_,_,bounded,_⟩ := microstep_limit (climbing 1)
    have limited := bounded () _ _ rfl rfl (climbing_unfailing 1 1)
    have unsettled : ∀ step, ((stairs.begin 1).run.run (climbing 1).answer ()).1 ≠ .ok step := by
      intro step settles
      obtain ⟨path,now,few,ends⟩ := limited.settles_iff.mp ⟨step,settles⟩
      rw [(ends.unique (climbing_ends 1)).1] at few
      exact absurd few (by decide)
    obtain ⟨path,_,_,all,reaches,_,fails,_⟩ := limited.exceeded unsettled
    obtain ⟨rest,whole⟩ := (climbing_ends 1).longest reaches.follows
    rcases path with _ | ⟨first,_ | ⟨second,further⟩⟩
    · cases all
    · cases whole
      exact Prod.ext fails rfl
    · cases all
  · have made : Annals (fresh stairs (Options.withMaxMicrosteps {} 2)) [] [] _ := .here
    have started := made.onward (.turn (.start true))
    have committed := started.onward (.turn (.go rfl))
    obtain ⟨_,_,_,_,_,_,runs⟩ := microstep_limit (climbing 2)
    obtain ⟨trail,other,annals,related,matched⟩ := runs _ _ _ _ 64 committed (by decide) (by
      rintro moment member go ⟨frame,below,result,top,left,fails⟩
      rcases List.mem_append.mp member with first | second
      · rw [List.mem_singleton.mp first] at go
        cases go
      · rw [List.mem_singleton.mp second] at top
        cases top
        cases left
        exact fails)
    refine ⟨trail,other,_,annals,?_,?_⟩
    · rw [related.same]
      rfl
    · cases matched with
      | cons first rest =>
        cases rest with
        | cons second none =>
          cases none
          rw [List.map_cons,List.map_cons,first.deed,second.deed]
          rfl

end Setting

end Statechart
