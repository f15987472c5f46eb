import Statechart.Bench.Vocabulary
import Statechart.Proofs.Mail
import Statechart.Proofs.Publications

/-!
# Faults: what cannot be processed in the background

Nobody would repeat the outcome of an activity, so an interpreter fails when the macrostep of an outcome
does (`background_fault`). It fails at most once, with nothing of that macrostep committed, and when its
listeners have been told of it they are released.
-/
namespace Statechart

variable {M : Machine} {graph : Graph M} {options : Options}

/-- The failures with which an interpreter has faulted. -/
def faults (trail : List (Moment M)) : List (Failure M.State) := trail.filterMap Moment.fault?

theorem faults_append (trail more : List (Moment M)) : faults (trail ++ more) = faults trail ++ faults more :=
  List.filterMap_append

theorem faults_singleton (moment : Moment M) : faults [moment] = moment.fault?.toList := by
  cases failed : moment.fault? <;> simp [faults,failed]

namespace Gathering

variable {here next : Gathering M} {deed : Deed M} {trail : List (Moment M)} {log : List (Note M)}

/-! ## The moment of a fault -/

/-- What a fault makes of the interpreter. -/
theorem Moves.faulted (moves : here.Moves .go next) {drainer : Drainer M} {firstError : Option (Failure M.State)}
    {event : Event M} {failure : Failure M.State} {below : List (Frame M)}
    (top : here.self.stack = .reacting drainer firstError event (.done (.error failure)) :: below)
    (outcome : event.origin.isSome = true) (running : here.self.core.status = .running) :
    next.self = { here.self with
      core := here.self.core.close .failed (some failure)
      mailbox := []
      stack := .publishing (here.self.core.close .failed (some failure)).snapshot here.self.registry.entries .faulted ::
        .draining drainer (some (firstError.getD failure)) :: below } := by
  rw [moves.of_go]
  simp [Interpreter.tick,top,Interpreter.abandonStep,outcome,running,Interpreter.close,Interpreter.publish,
    Interpreter.push]

/-- An interpreter that has failed stays as it is. -/
theorem Moves.stays_failed (moves : here.Moves deed next) (sound : Sound graph options here.self here.waiting.flatten)
    (failed : here.self.core.status = .failed) : next.self.core = here.self.core := by
  cases moves with
  | turn turn =>
    rcases turn.ends_for_good sound (.inr failed) with kept | ⟨_,pending,top⟩
    · exact kept
    · -- an interpreter does not fail while it is being started
      obtain ⟨status,clocked,alive,core⟩ := sound.starting pending (by simp [top])
      have same : status = .failed := (congrArg Core.status core).symm.trans failed
      rw [same] at alive
      simp at alive
  | back => rfl
  | join => rfl

/-- An interpreter faults at most once, and it is one that has failed from then on. -/
structure Faulted (trail : List (Moment M)) (here : Gathering M) : Prop where
  once : faults trail = here.self.core.fault.toList
  failed : here.self.core.fault.isSome = true ↔ here.self.core.status = .failed

theorem Faulted.unfailed (faulted : Faulted trail here) (running : here.self.core.status = .running) :
    here.self.core.fault = none := by
  rw [← Option.not_isSome_iff_eq_none,faulted.failed,running]
  simp

theorem Faulted.onward (faulted : Faulted trail here) (sound : Sound graph options here.self here.waiting.flatten)
    (moves : here.Moves deed next) : Faulted (trail ++ [⟨here,deed⟩]) next := by
  have once := faulted.once
  cases faults : (⟨here,deed⟩ : Moment M).fault? with
  | some failure =>
    obtain ⟨_,_,_,_,_,_,_,running⟩ := Moment.fault?_eq_some_iff.mp faults
    have core := moves.announces.2 _ (Moment.announced?_of_fault? faults)
    constructor
    · rw [faults_append,faults_singleton,faults,once,faulted.unfailed running,core]
      rfl
    · rw [core]
      exact ⟨fun _ => rfl,fun _ => rfl⟩
  | none =>
    obtain ⟨kept,failed⟩ := moves.spares faults
    constructor
    · rw [faults_append,faults_singleton,faults,once,kept]
      simp
    · rw [kept,faulted.failed]
      refine ⟨fun before => ?_,failed⟩
      rw [moves.stays_failed sound before]
      exact before

theorem Trail.faulted (run : (fresh graph options).Trail trail here) : Faulted trail here := by
  induction run with
  | here => exact ⟨rfl,by simp [fresh,Interpreter.fresh,Core.fresh]⟩
  | onward run moves ih => exact ih.onward run.reachable.sound moves

/-- An interpreter becomes one that has failed when the macrostep of an outcome that belongs to the live
instance has failed while it was running. -/
theorem Moves.becomes_failed_iff (moves : here.Moves deed next) (reachable : here.Reachable graph options) :
    here.self.core.status ≠ .failed ∧ next.self.core.status = .failed ↔
      deed = .go ∧ here.self.core.status = .running ∧ ∃ drainer firstError event failure below,
        here.self.stack = .reacting drainer firstError event (.done (.error failure)) :: below ∧
        event.origin = some here.self.core.origin := by
  constructor
  · rintro ⟨unfailed,failed⟩
    cases faults : (⟨here,deed⟩ : Moment M).fault? with
    | none => exact absurd ((moves.spares faults).2 failed) unfailed
    | some failure =>
      obtain ⟨go,drainer,firstError,event,below,top,outcome,running⟩ := Moment.fault?_eq_some_iff.mp faults
      simp only at go top running
      obtain ⟨origin,carried⟩ := Option.isSome_iff_exists.mp outcome
      have member : Frame.reacting drainer firstError event (.done (.error failure)) ∈ here.macrosteps := by
        simp [macrosteps,frames,top,Frame.isMacrostep]
      have live := reachable.event_origin member rfl carried
      exact ⟨go,running,drainer,firstError,event,failure,below,top,by rw [carried,live]⟩
  · rintro ⟨go,running,drainer,firstError,event,failure,below,top,live⟩
    subst go
    rw [moves.faulted top (by simp [live]) running,running]
    exact ⟨by simp,rfl⟩

/-! ## The farewell -/

/-- Of the snapshots of a run, just one shows that the interpreter has failed, once it has. -/
theorem Annals.failed (annals : (fresh graph options).Annals trail log here) :
    (produced log).filter (fun snapshot => snapshot.status = .failed) =
      if here.self.core.status = .failed then [here.self.snapshot] else [] := by
  induction annals with
  | here => rfl
  | @onward trail log deed here next annals moves ih =>
    rw [produced_append,List.filter_append,ih,moves.announces.1]
    cases faults : (⟨here,deed⟩ : Moment M).fault? with
    | some failure =>
      obtain ⟨_,_,_,_,_,_,_,running⟩ := Moment.fault?_eq_some_iff.mp faults
      have announces := Moment.announced?_of_fault? faults
      simp only at running
      rw [Interpreter.snapshot,Interpreter.snapshot,moves.announces.2 _ announces,announces,running]
      rfl
    | none =>
      have alive : ∀ core, (⟨here,deed⟩ : Moment M).announced? = some core → core.status ≠ .failed := by
        intro core announces failed
        rcases Moment.announced?_eq_some_iff.mp announces with ⟨_,commits,same⟩ | ⟨_,fails,_⟩ | ⟨_,_,_,same⟩
        · have alive := Core.status_commit (Moment.step?_eq_some_iff.mp commits).2.1
          rw [← same,failed] at alive
          simp at alive
        · rw [faults] at fails
          cases fails
        · rw [same] at failed
          cases failed
      have silent : ((⟨here,deed⟩ : Moment M).announced?.toList.map Core.snapshot).filter
          (fun snapshot => snapshot.status = .failed) = [] := by
        cases announces : (⟨here,deed⟩ : Moment M).announced? with
        | none => rfl
        | some core => simpa [Core.snapshot] using alive core announces
      rw [silent,List.append_nil]
      by_cases failed : here.self.core.status = .failed
      · have kept := moves.stays_failed annals.run.reachable.sound failed
        rw [Interpreter.snapshot,Interpreter.snapshot,kept]
      · rw [if_neg failed,if_neg fun then_ => failed ((moves.spares faults).2 then_)]

end Gathering

/-- The delivery of a step or of a fault that is on top lies upon its drain. -/
theorem Stacked.delivery {snapshot : Snapshot M.State M.Context} {unheard : List (Nat × M.Listener)} {sequel : Sequel}
    {below : List (Frame M)} (stacked : Stacked (.publishing snapshot unheard sequel :: below))
    (other : sequel ≠ .stopped) :
    ∃ drainer firstError base, below = .draining drainer firstError :: base ∧ Stacked base := by
  generalize same : Frame.publishing snapshot unheard sequel :: below = stack at stacked
  cases stacked with
  | nil => cases same
  | @cons calls base segment deeper =>
    cases segment with
    | telling told rest drainer firstError more =>
      cases same
      exact ⟨drainer,firstError,base,rfl,deeper⟩
    | stopping told rest =>
      cases same
      exact absurd rfl other
    | _ => cases same

namespace Gathering

variable {first here next : Gathering M} {deed : Deed M} {trail : List (Moment M)} {log : List (Note M)}

/-- Besides the delivery of a step or of a fault on top there is no other one, of whichever caller. -/
theorem Trail.sole_delivery (run : (fresh graph options).Trail trail here) {snapshot : Snapshot M.State M.Context}
    {unheard : List (Nat × M.Listener)} {sequel : Sequel} {below : List (Frame M)}
    (top : here.self.stack = .publishing snapshot unheard sequel :: below) (other : sequel ≠ .stopped) {number : Nat}
    (owes : here.Owes snapshot number) : number ∈ unheard.map Prod.fst := by
  obtain ⟨unheard',sequel',member,other',owed⟩ := owes
  have stacked := run.stacked _ List.mem_cons_self
  rw [top] at stacked
  obtain ⟨drainer,firstError,base,drains,deeper⟩ := stacked.delivery other
  have free := (run.reachable.sound.popped top here.self.registry).alone drains rfl
  -- any other delivery would lie upon a second drain
  have second : ∀ stack, Stacked stack → .publishing snapshot unheard' sequel' ∈ stack →
      ∃ drainer firstError, .draining drainer firstError ∈ stack := by
    intro stack stacked among
    obtain ⟨above,drainer,firstError,rest,same⟩ := stacked.split among other'
    exact ⟨drainer,firstError,by rw [same]; simp⟩
  rw [frames,top,drains] at member
  simp only [List.cons_append,List.mem_cons,List.mem_append] at member
  rcases member with same | same | inBase | waits
  · cases same
    exact owed
  · cases same
  · obtain ⟨drainer',firstError',again⟩ := second base deeper inBase
    cases free _ (List.mem_append_left _ again)
  · obtain ⟨stack,among,inStack⟩ := List.mem_flatten.mp waits
    obtain ⟨drainer',firstError',again⟩ := second stack (run.stacked _ (List.mem_cons_of_mem _ among)) inStack
    cases free _ (List.mem_append_right _ (List.mem_flatten.mpr ⟨stack,among,again⟩))

/-- A delivery is in progress until the call goes on after everybody has been told. -/
theorem Trail.delivers (run : first.Trail trail here) {snapshot : Snapshot M.State M.Context}
    {unheard : List (Nat × M.Listener)} {sequel : Sequel} (member : .publishing snapshot unheard sequel ∈ first.frames) :
    (∃ unheard, .publishing snapshot unheard sequel ∈ here.frames) ∨
    ∃ between ending rest below, trail = between ++ ending :: rest ∧ ending.deed = .go ∧
      ending.here.self.stack = .publishing snapshot [] sequel :: below := by
  induction run with
  | here => exact .inl ⟨unheard,member⟩
  | @onward trail deed here next _ moves ih =>
    rcases ih with ⟨unheard,member⟩ | ⟨between,ending,rest,below,whole,facts⟩
    · rcases moves.keeps_publishing member with still | ⟨_,later,_,_,still⟩ | ⟨_,go,below,top⟩
      · exact .inl ⟨unheard,still⟩
      · exact .inl ⟨later,still⟩
      · exact .inr ⟨trail,⟨here,deed⟩,[],below,rfl,go,top⟩
    · exact .inr ⟨between,ending,rest ++ [⟨here,deed⟩],below,by simp [whole],facts⟩

/-- Where no listener is registered, none is until somebody subscribes. -/
theorem Trail.unsubscribed (run : first.Trail trail here) (none : first.self.registry.entries = [])
    (silent : ∀ moment ∈ trail, ∀ listener, moment.deed ≠ .subscribe listener) : here.self.registry.entries = [] := by
  induction run with
  | here => exact none
  | @onward trail deed here next _ moves ih =>
    have before := ih fun moment member => silent moment (List.mem_append_left _ member)
    rcases moves.registry with enrolled | ⟨_,cleared,_⟩
    · rw [enrolled]
      cases deed with
      | subscribe listener => exact absurd rfl (silent _ (List.mem_append_right _ List.mem_cons_self) listener)
      | unsubscribe number => simp [Deed.enrol,Registry.remove,before]
      | _ => exact before
    · rw [cleared]
      rfl

/-- Everybody who is registered at the moment of a fault is told of it, and then all listeners are
released. -/
theorem Trail.parts (run : (fresh graph options).Trail trail here) {before after : List (Moment M)} {moment : Moment M}
    {failure : Failure M.State} (whole : trail = before ++ moment :: after) (faults : moment.fault? = some failure) :
    (∃ unheard, .publishing (moment.here.self.core.close .failed (some failure)).snapshot unheard .faulted ∈ here.frames) ∨
    ∃ between ending rest, after = between ++ ending :: rest ∧
      (∀ number ∈ moment.here.self.registry.numbers, ∃ later ∈ between,
        later.deed = .told number (moment.here.self.core.close .failed (some failure)).snapshot) ∧
      ((∀ later ∈ rest, ∀ listener, later.deed ≠ .subscribe listener) → here.self.registry.entries = []) := by
  subst whole
  obtain ⟨next,earlier,moves,further⟩ := run.split
  obtain ⟨go,drainer,firstError,event,below,top,outcome,running⟩ := Moment.fault?_eq_some_iff.mp faults
  rw [go] at moves
  have goes := moves.faulted top outcome running
  have told : .publishing (moment.here.self.core.close .failed (some failure)).snapshot
      moment.here.self.registry.entries .faulted ∈ next.frames := by simp [frames,goes]
  rcases further.delivers told with still | ⟨between,ending,rest,deeper,split,goesOn,last⟩
  · exact .inl still
  · subst split
    obtain ⟨final,delivers,releases,afterwards⟩ := further.split
    refine .inr ⟨between,ending,rest,rfl,?_,?_⟩
    · intro number registered
      rcases delivers.owes ⟨_,_,told,by simp,registered⟩ with heard | owes
      · exact heard
      · have reached := (earlier.onward moves).append delivers
        cases reached.sole_delivery last (by simp) owes
    · rw [goesOn] at releases
      have cleared : final.self.registry.entries = [] := by
        rw [releases.of_go]
        simp [Interpreter.tick,last,Registry.clear]
      exact afterwards.unsubscribed cleared

/-- A fault is present just when the interpreter has failed, which it does at most once: when the macrostep
of an outcome of the live instance comes to an error while the interpreter is running, for whomever the
mailbox is emptied. Nothing of that macrostep is committed, the error is noted down, the activities and the
mail are gone, and one snapshot is produced. Once the listeners have been told of it, none is registered. -/
theorem background_fault (annals : (fresh graph options).Annals trail log here) :
    (here.self.core.fault.isSome = true ↔ here.self.core.status = .failed) ∧
    faults trail = here.self.core.fault.toList ∧
    (produced log).filter (fun snapshot => snapshot.status = .failed) =
      (if here.self.core.status = .failed then [here.self.snapshot] else []) ∧
    (∀ deed next, here.Moves deed next →
      (here.self.core.status ≠ .failed ∧ next.self.core.status = .failed ↔
        deed = .go ∧ here.self.core.status = .running ∧ ∃ drainer firstError event failure below,
          here.self.stack = .reacting drainer firstError event (.done (.error failure)) :: below ∧
          event.origin = some here.self.core.origin)) ∧
    (∀ drainer firstError event failure below next,
      here.self.stack = .reacting drainer firstError event (.done (.error failure)) :: below →
      event.origin = some here.self.core.origin → here.self.core.status = .running → here.Moves .go next →
        next.self.core = { here.self.core with status := .failed, fault := some failure, activities := [] } ∧
        next.self.mailbox = [] ∧
        next.self.stack = .publishing next.self.snapshot here.self.registry.entries .faulted ::
          .draining drainer (some (firstError.getD failure)) :: below ∧
        ∃ before start during log, trail = before ++ start :: during ∧ start.deed = .go ∧
          start.here.Underway .go (during.map Moment.deed) log here ∧
          (graph.react options.maxMicrosteps start.here.self.core.state start.here.self.core.context event).run.Leads
            (answers (during.map Moment.deed)) (.done (.error failure)) ∧
          next.self.core.committed = start.here.self.core.committed) ∧
    ∀ before moment after failure, trail = before ++ moment :: after → moment.fault? = some failure →
      (∃ unheard, .publishing (moment.here.self.core.close .failed (some failure)).snapshot unheard .faulted ∈ here.frames) ∨
      ∃ between ending rest, after = between ++ ending :: rest ∧
        (∀ number ∈ moment.here.self.registry.numbers, ∃ later ∈ between,
          later.deed = .told number (moment.here.self.core.close .failed (some failure)).snapshot) ∧
        ((∀ later ∈ rest, ∀ listener, later.deed ≠ .subscribe listener) → here.self.registry.entries = []) := by
  have run := annals.run
  refine ⟨run.faulted.failed,run.faulted.once,annals.failed,?_,?_,fun _ _ _ _ => run.parts⟩
  · intro deed next moves
    exact moves.becomes_failed_iff run.reachable
  · intro drainer firstError event failure below next top live running moves
    have goes := moves.faulted top (by simp [live]) running
    refine ⟨by rw [goes]; rfl,by rw [goes],by rw [goes]; rfl,?_⟩
    obtain ⟨before,start,during,log,whole,underway,begun,computed,same⟩ := run.macrostep top rfl
    have begins : start.deed = .go := begun
    rw [begins] at underway
    refine ⟨before,start,during,log,whole,begins,underway,computed.2,?_⟩
    rw [goes]
    exact same

/-- A chart whose delay runs out in an action that fails. -/
def fuse : Graph Bench.machine where
  id := "fuse"
  initial := .a
  context := {}
  nodes := [
    { Node.empty (M := Bench.machine) .a with delay := some ⟨5,[⟨none,[⟨"burn",.effect,.fail "burnt"⟩],none⟩]⟩ }]

/-- The delay has run out, somebody has sent a signal in the meantime, and the action has failed. -/
theorem fuse_burns :
    ∃ trail log here next, (fresh fuse {}).Annals trail log here ∧ here.Moves .go next ∧
      here.self.core.status = .running ∧ here.self.mailbox = [.signal ⟨.go,0⟩] ∧
      here.self.stack = [.reacting .poster none (.elapsed ⟨.a,⟨1⟩⟩) (.done (.error (.effectFailed .a "burn" ⟨"burnt"⟩)))] ∧
      here.self.core.origin = ⟨.a,⟨1⟩⟩ := by
  have made : Annals (fresh fuse {}) [] [] _ := .here
  have subscribed := made.onward (.turn (.subscribe (Bench.Listener.mk 0 "p" {} [] 1)))
  have started := subscribed.onward (.turn (.start true))
  have committed := started.onward (.turn (.go rfl))
  have told := committed.onward (.turn (.told rfl))
  have heard := told.onward (.turn (.go rfl))
  have drained := heard.onward (.turn (.go rfl))
  have slept := drained.onward (.turn (@Turn.sleep _ _ 0 _ _ rfl (.timer _ _ 5)))
  have elapsed := slept.onward (.turn (@Turn.deliver _ _ 0 _ _ rfl (.timer _ _ 5)))
  have taken := elapsed.onward (.turn (.go rfl))
  have sent := taken.onward (.turn (.send (Bench.Signal.mk .go 0)))
  have failed := sent.onward (.turn (.answer rfl (by exact Except.error (ActionError.mk "burnt"))))
  exact ⟨_,_,_,_,failed,.turn (.go rfl),rfl,rfl,rfl,rfl⟩

theorem fuse_background_fault :
    ∃ trail log here next, (fresh fuse {}).Annals trail log here ∧ here.Moves .go next ∧
      next.self.core.status = .failed ∧ next.self.core.fault = some (.effectFailed .a "burn" ⟨"burnt"⟩) ∧
      next.self.core.committed = here.self.core.committed ∧ next.self.mailbox = [] ∧
      faults (trail ++ [⟨here,.go⟩]) = [.effectFailed Bench.State.a "burn" ⟨"burnt"⟩] := by
  obtain ⟨trail,log,here,next,annals,moves,running,mail,top,live⟩ := fuse_burns
  obtain ⟨_,_,_,_,burns,_⟩ := background_fault annals
  obtain ⟨core,empty,_⟩ := burns _ _ _ _ _ _ top (by rw [live]; rfl) running moves
  obtain ⟨_,once,_⟩ := background_fault (annals.onward moves)
  refine ⟨trail,log,here,next,annals,moves,by rw [core],by rw [core],by rw [core]; rfl,empty,?_⟩
  rw [once,core]
  rfl

end Gathering

end Statechart
