import Statechart.Proofs.Outcomes
import Statechart.Proofs.Promises

/-!
# Quiescence: what holds when nobody is at work

While nobody is in the middle of a start or a drain, the flag is free and no mail waits, so that whatever is
sent next is processed at once. What the status says about the live state is true then (`quiescence`): an
interpreter is done just if the state that it has settled in is final.
-/
namespace Statechart

variable {M : Machine} {graph : Graph M} {options : Options}

/-- A commit ends the machine if it has entered a state that is final. -/
theorem Core.status_commit_eq (core : Core M) (step : Step M) :
    (core.commit step).status = if step.entry.isSome ∧ M.isFinal step.state = true then .done else core.status := by
  cases entry : step.entry with
  | none => simp [commit,entry]
  | some entered =>
    by_cases final : M.isFinal step.state = true
    · simp [commit,entry,final]
    · by_cases clocked : core.clocked = true
      · simp [commit,entry,final,clocked]
      · simp [commit,entry,final,clocked]

/-- Only a commit makes an interpreter one that is done. -/
theorem Interpreter.Changes.completes {self : Interpreter M} {deed : Deed M} {core : Core M}
    (changes : self.Changes deed core) (done : core.status = .done) :
    self.core.status = .done ∨ deed = .go ∧ ∃ step, self.Commits step := by
  cases changes with
  | kept _ => exact .inl done
  | begun _ _ => cases done
  | committed commits => exact .inr ⟨rfl,_,commits⟩
  | undone _ => cases done
  | closed _ past => rcases past with stopped | failed <;> simp_all [Core.close]
  | slept _ _ => exact .inl done
  | ended _ _ => exact .inl done

namespace Gathering

variable {here next : Gathering M} {deed : Deed M} {trail : List (Moment M)}

/-! ## What the status says about the live state -/

/-- The first step that is committed enters a state; a later one may stay where it is. -/
theorem Commenced.enters (commenced : Commenced trail here) (reachable : here.Reachable graph options) {step : Step M}
    (now : (⟨here,deed⟩ : Moment M).step? = some step) :
    step.entry.isSome = true ∨
      (step.entry = none ∧ step.state = here.self.core.state ∧ commits trail ≠ []) := by
  have commits := (Moment.step?_eq_some_iff.mp now).2
  rcases reachable.stems commits with ⟨stems,_⟩ | ⟨stems,drainer,firstError,event,pending,reacting⟩
  · cases stems with
    | stayed _ nowhere => cases nowhere
    | entered some _ _ => exact .inl (by rw [some]; rfl)
  · cases stems with
    | stayed none there =>
      refine .inr ⟨none,(Option.some.inj there).symm,?_⟩
      intro uncommitted
      obtain ⟨_,one⟩ := commenced.before uncommitted (Core.running_of_admits commits.1)
      rw [one] at reacting
      cases List.mem_singleton.mp reacting
    | entered some _ _ => exact .inl (by rw [some]; rfl)

/-- Once something has been committed, an instance lives, and it is in a final state just if the interpreter
is done rather than running. -/
structure Living (trail : List (Moment M)) (here : Gathering M) : Prop where
  born : commits trail ≠ [] → births trail ≠ []
  running : commits trail ≠ [] → here.self.core.status = .running → M.isFinal here.self.core.state = false
  done : here.self.core.status = .done → M.isFinal here.self.core.state = true

/-- A committed step makes the interpreter one that is done if the state that it has come to is final. -/
theorem Living.completes_iff (living : Living trail here) (commenced : Commenced trail here)
    (reachable : here.Reachable graph options) (moves : here.Moves deed next) {step : Step M}
    (now : (⟨here,deed⟩ : Moment M).step? = some step) :
    next.self.core.status = (if M.isFinal step.state = true then .done else .running) := by
  have running := Core.running_of_admits (Moment.step?_eq_some_iff.mp now).2.1
  simp only at running
  rw [moves.core_of_commit now,Core.status_commit_eq,running]
  rcases commenced.enters reachable now with entered | ⟨stayed,there,committed⟩
  · simp [entered]
  · have open_ := living.running committed running
    rw [← there] at open_
    simp [stayed,open_]

theorem Living.onward (living : Living trail here) (commenced : Commenced trail here)
    (reachable : here.Reachable graph options) (moves : here.Moves deed next) :
    Living (trail ++ [⟨here,deed⟩]) next := by
  cases now : (⟨here,deed⟩ : Moment M).step? with
  | some step =>
    have state := (moves.shows now).1
    have status := living.completes_iff commenced reachable moves now
    refine ⟨fun _ => ?_,fun _ running => ?_,fun done => ?_⟩
    · rw [births_append,births_singleton]
      rcases commenced.enters reachable now with entered | ⟨_,_,committed⟩
      · obtain ⟨entry,some⟩ := Option.isSome_iff_exists.mp entered
        simp [Moment.birth?,now,some]
      · exact List.append_ne_nil_of_left_ne_nil (living.born committed) _
    · rw [state]
      cases final : M.isFinal step.state with
      | false => rfl
      | true => rw [status,final] at running; cases running
    · rw [state]
      cases final : M.isFinal step.state with
      | true => rfl
      | false => rw [status,final] at done; cases done
  | none =>
    have same : next.self.core.state = here.self.core.state := congrArg Committed.state (moves.committed_of_none now)
    have kept : commits (trail ++ [⟨here,deed⟩]) = commits trail := (moves.uncommitted trail now).1
    refine ⟨fun committed => ?_,fun committed running => ?_,fun done => ?_⟩
    · rw [births_append,births_singleton,Moment.birth?_eq_none now,Option.toList_none,List.append_nil]
      exact living.born (kept ▸ committed)
    · rw [kept] at committed
      rw [same]
      by_cases alive : here.self.core.status = .running
      · exact living.running committed alive
      · exact absurd (moves.changes.revives alive running).1 (commenced.after committed).1
    · rw [same]
      rcases moves.changes.completes done with before | ⟨go,step,commits⟩
      · exact living.done before
      · rw [Moment.step?_eq_some_iff.mpr ⟨go,commits⟩] at now
        cases now

theorem Trail.living (run : (fresh graph options).Trail trail here) : Living trail here := by
  induction run with
  | here => exact ⟨fun some => absurd rfl some,fun some => absurd rfl some,nofun⟩
  | onward run moves ih => exact ih.onward run.commenced run.reachable moves

/-! ## When nobody is at work -/

/-- Nobody is in the middle of a start or of a drain. -/
def Idle (here : Gathering M) : Prop := ∀ frame ∈ here.frames, frame.holdsFlag = false

/-- What holds of an interpreter while nobody is at work on it. -/
structure Quiescent (graph : Graph M) (options : Options) (interpreter : Interpreter M) : Prop where
  released : interpreter.draining = false
  empty : interpreter.mailbox = []
  running : interpreter.core.status = .running →
    M.isFinal interpreter.core.state = false ∧ 1 ≤ interpreter.core.generation.value.toNat
  done : interpreter.core.status = .done → M.isFinal interpreter.core.state = true
  notStarted : interpreter.core.status = .notStarted →
    interpreter.core.state = graph.initial ∧ interpreter.core.context = graph.context ∧ interpreter.core.generation = .first ∧
      interpreter.core.history = .bounded options.historyLimit

theorem Idle.no_macrostep (idle : here.Idle) : here.macrosteps = [] := by
  rw [macrosteps,List.filter_eq_nil_iff]
  intro frame member macrostep
  have free := idle frame member
  rw [Frame.holdsFlag_of_isMacrostep macrostep] at free
  cases free

/-- The flag is free just if nobody is at work. -/
theorem Reachable.idle_iff (reachable : here.Reachable graph options) : here.self.draining = false ↔ here.Idle := by
  have flag := reachable.sound.flag
  constructor
  · intro released
    exact reachable.sound.free released
  · intro idle
    have none : here.frames.countP Frame.holdsFlag = 0 := List.countP_eq_zero.mpr fun frame member => by
      simp [idle frame member]
    rw [show here.self.stack ++ here.waiting.flatten = here.frames from rfl,none] at flag
    cases held : here.self.draining with
    | false => rfl
    | true => rw [held] at flag; cases flag

theorem Trail.quiescent (run : (fresh graph options).Trail trail here) (few : (commits trail).length < 2^64)
    (idle : here.Idle) : Quiescent graph options here.self := by
  have released := run.reachable.idle_iff.mpr idle
  refine ⟨released,run.attended released,fun running => ⟨?_,?_⟩,run.living.done,fun unstarted => ?_⟩
  · exact run.living.running (run.commenced.resting running idle.no_macrostep) running
  · have born := run.living.born (run.commenced.resting running idle.no_macrostep)
    rw [(run.generations (Nat.lt_of_le_of_lt (births_le_commits trail) few)).1]
    exact List.length_pos_iff.mpr born
  · rw [(run.reachable.sound.unstarted unstarted).2.2]
    exact ⟨rfl,rfl,rfl,rfl⟩

/-- The call of a caller that has no other call in progress returns: nothing is left of it. -/
theorem Moves.returns (moves : here.Moves .go next) (call : Segment here.self.stack) {reply : Reply M}
    (replies : here.self.tick.2 = some reply) : next.self.stack = [] := by
  have stack : here.self.stack = here.self.stack ++ [] := (List.append_nil _).symm
  cases moves with
  | turn turn =>
    cases turn with
    | go free =>
      rcases Interpreter.tick_segment call stack free with ⟨_,returned⟩ | ⟨goes,_⟩
      · exact returned
      · rw [goes] at replies
        cases replies

/-- Whenever nobody is in the middle of a start or of a drain, the flag is free and the mailbox is empty. An
interpreter that is running then is in a state that is not final and has entered one state at least, one
that is done is in a final state, and one that has not been started is as it was made. So it is, among
others, when the only call of a caller has returned while nobody else is at work. A committed step makes the
interpreter one that is done if the state that it has come to is final, and leaves it running otherwise,
whatever other states it has passed through. -/
theorem quiescence (run : (fresh graph options).Trail trail here) (few : (commits trail).length < 2^64) :
    (here.Idle → Quiescent graph options here.self) ∧
    (here.self.draining = false ↔ here.Idle) ∧
    (∀ next reply, here.Moves .go next → Segment here.self.stack → here.self.tick.2 = some reply →
      (∀ frame ∈ here.waiting.flatten, frame.holdsFlag = false) → next.Idle) ∧
    ∀ deed next step, here.Moves deed next → (⟨here,deed⟩ : Moment M).step? = some step →
      next.self.core.state = step.state ∧
        next.self.core.status = if M.isFinal step.state = true then .done else .running := by
  refine ⟨run.quiescent few,run.reachable.idle_iff,?_,?_⟩
  · intro next reply moves call replies others
    have returned := moves.returns call replies
    have same : next.waiting = here.waiting := by rw [moves.of_go]
    intro frame member
    rw [frames,returned,same,List.nil_append] at member
    exact others frame member
  · intro deed next step moves now
    exact ⟨(moves.shows now).1,run.living.completes_iff run.commenced run.reachable moves now⟩

/-- A chart that passes through a final state, and comes to rest in another one later. -/
def turnpike : Graph Bench.machine where
  id := "turnpike"
  initial := .a
  context := {}
  nodes := [
    { Node.empty (M := Bench.machine) .a with on := [(.go,[⟨none,[],some .x⟩])] },
    { Node.empty (M := Bench.machine) .x with always := [⟨none,[],some .b⟩] },
    { Node.empty (M := Bench.machine) .b with on := [(.go,[⟨none,[],some .y⟩])] },
    .empty .y]

/-- It has passed through the first final state, and the call has returned. -/
theorem turnpike_passed :
    ∃ trail here, (fresh turnpike {}).Trail trail here ∧ (commits trail).length = 2 ∧ here.Idle ∧
      here.self.core.status = .running ∧ here.self.core.state = .b ∧
      here.self.core.history.records.map Record.target = [.x,.b] := by
  have made : Trail (fresh turnpike {}) [] _ := .here
  have started := made.onward (.turn (.start true))
  have committed := started.onward (.turn (.go rfl))
  have told := committed.onward (.turn (.go rfl))
  have drained := told.onward (.turn (.go rfl))
  have sent := drained.onward (.turn (.send (Bench.Signal.mk .go 0)))
  have taken := sent.onward (.turn (.go rfl))
  have passed := taken.onward (.turn (.go rfl))
  have heard := passed.onward (.turn (.go rfl))
  have returned := heard.onward (.turn (.go rfl))
  refine ⟨_,_,returned,rfl,?_,rfl,rfl,rfl⟩
  intro frame member
  cases member

theorem turnpike_quiescence :
    ∃ trail here, (fresh turnpike {}).Trail trail here ∧ (commits trail).length < 2^64 ∧ here.Idle ∧
      here.self.core.history.records.map Record.target = [.x,.b] ∧
      here.self.draining = false ∧ here.self.mailbox = [] ∧ here.self.core.status = .running ∧
      Bench.State.isFinal here.self.core.state = false ∧ 1 ≤ here.self.core.generation.value.toNat := by
  obtain ⟨trail,here,run,two,idle,running,_,way⟩ := turnpike_passed
  have few : (commits trail).length < 2^64 := by rw [two]; decide
  obtain ⟨quiescent,_⟩ := quiescence run few
  obtain ⟨open_,entered⟩ := (quiescent idle).running running
  exact ⟨trail,here,run,few,idle,way,(quiescent idle).released,(quiescent idle).empty,running,open_,entered⟩

end Gathering

end Statechart
