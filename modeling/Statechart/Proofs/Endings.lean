import Statechart.Bench.Vocabulary
import Statechart.Proofs.Publications

/-!
# Endings: nothing comes after the end

An interpreter has ended when it is done, has been stopped or has failed, and no start is computed any
more. From then on nothing about it changes, except that one that is done may still be stopped. A macrostep
that was in progress at the end is computed as before, and nothing comes of it (`terminal_freeze`).
-/
namespace Statechart

variable {M : Machine} {graph : Graph M} {options : Options}

theorem Status.isTerminal_iff {status : Status} :
    status.isTerminal = true ↔ status ≠ .notStarted ∧ status ≠ .running := by
  cases status <;> simp [isTerminal]

theorem Frame.Advances.trans {frame middle last : Frame M} {given more : List ((query : Query M) × query.Answer)}
    (advances : frame.Advances given middle) (further : middle.Advances more last) :
    frame.Advances (given ++ more) last := by
  cases advances with
  | starting leads => cases further with | starting onward => exact .starting (leads.trans onward)
  | reacting leads => cases further with | reacting onward => exact .reacting (leads.trans onward)

namespace Gathering

variable {first here next : Gathering M} {deed : Deed M} {deeds : List (Deed M)} {log : List (Note M)}

/-! ## How the status changes -/

/-- Where nothing is announced the status stays as it was, unless a start begins or has failed. -/
theorem Moves.status_of_silent (moves : here.Moves deed next) (silent : (⟨here,deed⟩ : Moment M).announced? = none) :
    next.self.core.status = here.self.core.status ∨
    (here.self.core.status = .notStarted ∧ next.self.core.status = .running) ∨
    (next.self.core.status = .notStarted ∧
      ∃ failure below, here.self.stack = .starting (.done (.error failure)) :: below) := by
  have unannounced : ∀ {core : Core M}, (⟨here,deed⟩ : Moment M).announced? ≠ some core := by
    intro core announces
    rw [silent] at announces
    cases announces
  cases moves with
  | @turn self _ _ waiting turn =>
    cases turn with
    | start clocked =>
      rcases self.start_cases clocked with ⟨_,result⟩ | ⟨_,result⟩ | ⟨unstarted,result⟩
      · exact .inl (by rw [result])
      · exact .inl (by rw [result])
      · exact .inr (.inl ⟨unstarted,by rw [result]⟩)
    | send signal => exact .inl (by rw [self.core_post])
    | stop =>
      rcases self.stop_cases with ⟨_,result⟩ | ⟨unstopped,unfailed,_⟩
      · exact .inl (by rw [result])
      · exact absurd (Moment.announced?_eq_some_iff.mpr (.inr (.inr ⟨rfl,unstopped,unfailed,rfl⟩))) unannounced
    | answer asked given =>
      rcases Interpreter.resume_cases asked with ⟨_,_,resumed⟩ | ⟨_,_,_,_,_,resumed⟩ <;> exact .inl (by rw [resumed])
    | told top => exact .inl (by rw [Interpreter.notified_eq top])
    | go _ =>
      have ticks := self.ticks
      generalize self.tick.1 = next at ticks ⊢
      cases ticks with
      | startCommitted top admitted =>
        have commits : (⟨⟨self,waiting⟩,.go⟩ : Moment M).step? = some _ :=
          Moment.step?_eq_some_iff.mpr ⟨rfl,admitted,_,_,top,rfl⟩
        exact absurd (Moment.announced?_of_step? commits) unannounced
      | startFailed top => exact .inr (.inr ⟨rfl,_,_,top⟩)
      | stepCommitted top admitted =>
        have commits : (⟨⟨self,waiting⟩,.go⟩ : Moment M).step? = some _ :=
          Moment.step?_eq_some_iff.mpr ⟨rfl,admitted,_,_,top,rfl⟩
        exact absurd (Moment.announced?_of_step? commits) unannounced
      | faulted top outcome running =>
        have faults : (⟨⟨self,waiting⟩,.go⟩ : Moment M).fault? = some _ :=
          Moment.fault?_eq_some_iff.mpr ⟨rfl,_,_,_,_,top,outcome,running⟩
        exact absurd (Moment.announced?_of_fault? faults) unannounced
      | _ => exact .inl rfl
    | deliver _ _ => exact .inl (by rw [Interpreter.core_post]; rfl)
    | _ => exact .inl rfl
  | _ => exact .inl rfl

/-- The deed with which an interpreter ends is announced, once. -/
theorem Moves.announces_end (moves : here.Moves deed next) (alive : here.self.core.status.isTerminal = false)
    (terminal : next.self.core.status.isTerminal = true) :
    produced (here.self.notes next.self deed) = [next.self.snapshot] := by
  obtain ⟨once,becomes⟩ := moves.announces
  cases announces : (⟨here,deed⟩ : Moment M).announced? with
  | some core => rw [once,announces,Interpreter.snapshot,becomes core announces]; rfl
  | none =>
    rcases moves.status_of_silent announces with kept | ⟨_,running⟩ | ⟨unstarted,_⟩
    · rw [kept,alive] at terminal; cases terminal
    · rw [running] at terminal; cases terminal
    · rw [unstarted] at terminal; cases terminal

/-! ## After the end -/

/-- The interpreter is done, has been stopped or has failed, and no start is computed any more. -/
structure Ended (here : Gathering M) : Prop where
  terminal : here.self.core.status.isTerminal = true
  settled : ∀ pending, .starting pending ∉ here.macrosteps

/-- What may still become of an interpreter that has ended: its status is as it was and nothing has been
published, or it was done and has been stopped. -/
def Closes (first : Gathering M) (deeds : List (Deed M)) (log : List (Note M)) (here : Gathering M) : Prop :=
  (here.self.core.status = first.self.core.status ∧ produced log = []) ∨
  (first.self.core.status = .done ∧ .stop ∈ deeds ∧ here.self.core.status = .stopped ∧
    produced log = [⟨first.self.core.state,first.self.core.context,.stopped⟩])

/-- No macrostep begins after the end. -/
theorem Ended.course (ended : here.Ended) (moves : here.Moves deed next)
    (sound : Sound graph options here.self here.waiting.flatten) :
    (next.macrosteps = [] ∧ answers [deed] = []) ∨
    ∃ frame later, here.macrosteps = [frame] ∧ next.macrosteps = [later] ∧ frame.Advances (answers [deed]) later := by
  obtain ⟨started,idle⟩ := Status.isTerminal_iff.mp ended.terminal
  rcases moves.course sound with ⟨before,after⟩ | ⟨_,_,begins,_⟩ | advances | ⟨_,_,after,_⟩
  · exact .inl ⟨after,moves.answers_eq_nil (.inl before)⟩
  · cases begins with
    | start _ unstarted => exact absurd unstarted started
    | take _ _ running _ => exact absurd running idle
  · exact .inr advances
  · exact .inl ⟨after,moves.answers_eq_nil (.inr after)⟩

/-- After the end nothing is committed and nothing faults; only a stop is still announced. -/
theorem Moves.after_end (moves : here.Moves deed next) (sound : Sound graph options here.self here.waiting.flatten)
    (ended : here.Ended) :
    next.Ended ∧ next.self.core.committed = here.self.core.committed ∧ next.self.core.fault = here.self.core.fault ∧
      here.Closes [deed] (here.self.notes next.self deed) next := by
  obtain ⟨started,idle⟩ := Status.isTerminal_iff.mp ended.terminal
  have uncommitted : (⟨here,deed⟩ : Moment M).step? = none := by
    rw [Option.eq_none_iff_forall_ne_some]
    intro step commits
    exact idle (Core.running_of_admits (Moment.step?_eq_some_iff.mp commits).2.1)
  have spared : (⟨here,deed⟩ : Moment M).fault? = none := by
    rw [Option.eq_none_iff_forall_ne_some]
    intro failure faults
    obtain ⟨_,_,_,_,_,_,_,running⟩ := Moment.fault?_eq_some_iff.mp faults
    exact idle running
  have settled : ∀ pending, .starting pending ∉ next.macrosteps := by
    intro pending member
    rcases ended.course moves sound with ⟨after,_⟩ | ⟨frame,later,before,after,advances⟩
    · rw [after] at member
      cases member
    · rw [after,List.mem_singleton] at member
      subst member
      cases advances with
      | starting _ => exact ended.settled _ (by rw [before]; exact List.mem_singleton_self _)
  have closes : here.Closes [deed] (here.self.notes next.self deed) next := by
    obtain ⟨once,becomes⟩ := moves.announces
    cases announces : (⟨here,deed⟩ : Moment M).announced? with
    | none =>
      rcases moves.status_of_silent announces with kept | ⟨unstarted,_⟩ | ⟨_,failure,below,top⟩
      · exact .inl ⟨kept,by rw [once,announces]; rfl⟩
      · exact absurd unstarted started
      · exact absurd (by simp [macrosteps,frames,top,Frame.isMacrostep]) (ended.settled (.done (.error failure)))
    | some core =>
      rcases Moment.announced?_eq_some_iff.mp announces with ⟨_,commits,_⟩ | ⟨_,faults,_⟩ | ⟨stops,unstopped,unfailed,same⟩
      · rw [uncommitted] at commits; cases commits
      · rw [spared] at faults; cases faults
      · have done : here.self.core.status = .done := by
          cases status : here.self.core.status <;> simp_all
        refine .inr ⟨done,List.mem_singleton.mpr stops.symm,?_,?_⟩
        · rw [becomes core announces,same]
          rfl
        · rw [once,announces,same]
          rfl
  refine ⟨⟨?_,settled⟩,moves.committed_of_none uncommitted,(moves.spares spared).1,closes⟩
  rcases closes with ⟨kept,_⟩ | ⟨_,_,stopped,_⟩
  · rw [kept]; exact ended.terminal
  · rw [stopped]; rfl

theorem Path.after_end (path : first.Path deeds log here) (sound : Sound graph options first.self first.waiting.flatten)
    (ended : first.Ended) :
    here.Ended ∧ here.self.core.committed = first.self.core.committed ∧ here.self.core.fault = first.self.core.fault ∧
      first.Closes deeds log here := by
  induction path with
  | here => exact ⟨ended,rfl,rfl,.inl ⟨rfl,rfl⟩⟩
  | @onward deeds log deed here next path moves ih =>
    obtain ⟨still,same,fault,closes⟩ := ih
    obtain ⟨after,kept,spared,further⟩ := moves.after_end (path.sound sound) still
    refine ⟨after,kept.trans same,spared.trans fault,?_⟩
    rcases closes with ⟨status,silent⟩ | ⟨done,stopped,status,told⟩
    · rcases further with ⟨status',silent'⟩ | ⟨done,stops,status',told⟩
      · exact .inl ⟨status'.trans status,by rw [produced_append,silent,silent']; rfl⟩
      · have state : here.self.core.state = first.self.core.state := congrArg Committed.state same
        have context : here.self.core.context = first.self.core.context := congrArg Committed.context same
        refine .inr ⟨status.symm.trans done,List.mem_append_right _ stops,status',?_⟩
        rw [produced_append,silent,told,state,context]
        rfl
    · rcases further with ⟨status',silent'⟩ | ⟨done',_⟩
      · exact .inr ⟨done,List.mem_append_left _ stopped,status'.trans status,by rw [produced_append,told,silent']; rfl⟩
      · rw [status] at done'
        cases done'

/-- Whatever is asked after the end is asked by the macrostep that was in progress then. -/
theorem Path.asks_after_end (path : first.Path deeds log here)
    (sound : Sound graph options first.self first.waiting.flatten) (ended : first.Ended) :
    (here.macrosteps = [] ∧ answers deeds = []) ∨
    ∃ frame later, first.macrosteps = [frame] ∧ frame.Advances (answers deeds) later ∧
      (here.macrosteps = [later] ∨ here.macrosteps = []) := by
  induction path with
  | here =>
    cases found : first.macrosteps with
    | nil => exact .inl ⟨rfl,rfl⟩
    | cons frame rest =>
      have few : first.macrosteps.length ≤ 1 := sound.macrosteps_le
      have alone : rest = [] := by simpa [found] using few
      have macrostep : frame.isMacrostep = true := (List.mem_filter.mp (found ▸ List.mem_cons_self)).2
      exact .inr ⟨frame,frame,by rw [alone],Frame.advances_refl macrostep,.inl (by rw [alone])⟩
  | @onward deeds log deed here next path moves ih =>
    have still := (path.after_end sound ended).1
    have course := still.course moves (path.sound sound)
    rw [answers_append]
    rcases ih with ⟨none,unasked⟩ | ⟨frame,later,one,advances,left⟩
    · rcases course with ⟨after,silent⟩ | ⟨_,_,before,_,_⟩
      · exact .inl ⟨after,by rw [unasked,silent]; rfl⟩
      · rw [none] at before
        cases before
    · rcases course with ⟨after,silent⟩ | ⟨frame',later',before,after,further⟩
      · exact .inr ⟨frame,later,one,by rwa [silent,List.append_nil],.inr after⟩
      · rcases left with goes | past
        · rw [goes] at before
          cases before
          exact .inr ⟨frame,later',one,advances.trans further,.inl after⟩
        · rw [past] at before
          cases before

/-- The end is announced by one snapshot. After it, what has been committed and the fault stay as they are,
whatever anybody does; callbacks are asked only for what is left of the macrostep that was in progress at
the end, and nothing comes of it. A start is refused, whatever is sent is dropped without an error, and the
status changes and a snapshot is produced only when an interpreter that is done is stopped. -/
theorem terminal_freeze (reachable : here.Reachable graph options) (ended : here.Ended) :
    (∀ (before : Gathering M) deed, before.Moves deed here → before.self.core.status.isTerminal = false →
      produced (before.self.notes here.self deed) = [here.self.snapshot]) ∧
    ∀ deeds log later, here.Path deeds log later →
      later.self.core.committed = here.self.core.committed ∧ later.self.core.fault = here.self.core.fault ∧
      ((later.macrosteps = [] ∧ answers deeds = []) ∨
        ∃ frame last, here.macrosteps = [frame] ∧ frame.Advances (answers deeds) last ∧
          (later.macrosteps = [last] ∨ later.macrosteps = [])) ∧
      (∀ clocked, later.self.start clocked = (later.self,some (.started (.error .alreadyStarted)))) ∧
      (∀ signal, later.self.post (.signal signal) = (later.self,some (.posted (.ok ())))) ∧
      ((later.self.core.status = here.self.core.status ∧ produced log = []) ∨
        (here.self.core.status = .done ∧ .stop ∈ deeds ∧ later.self.core.status = .stopped ∧
          produced log = [⟨here.self.core.state,here.self.core.context,.stopped⟩])) := by
  constructor
  · intro before deed moves alive
    exact moves.announces_end alive ended.terminal
  · intro deeds log later path
    obtain ⟨still,same,fault,closes⟩ := path.after_end reachable.sound ended
    obtain ⟨started,idle⟩ := Status.isTerminal_iff.mp still.terminal
    refine ⟨same,fault,path.asks_after_end reachable.sound ended,?_,?_,closes⟩
    · intro clocked
      rw [Interpreter.start,if_pos started]
    · intro signal
      rw [Interpreter.post]
      split
      · exact absurd ‹_› started
      · exact absurd ‹_› idle
      · rfl

/-- A chart that waits for others on its way to a final state. -/
def curtain : Graph Bench.machine where
  id := "curtain"
  initial := .a
  context := {}
  nodes := [
    { Node.empty (M := Bench.machine) .a with on := [(.go,[⟨none,[⟨"wait",.effect,.gate⟩],some .x⟩])] },
    .empty .x]

/-- While one caller waits another one stops the interpreter. Then the action succeeds. -/
theorem curtain_falls :
    ∃ (here later : Gathering Bench.machine) (deeds : List (Deed Bench.machine)) (log : List (Note Bench.machine)),
      here.Reachable curtain {} ∧ here.Ended ∧ here.macrosteps ≠ [] ∧ here.Path deeds log later ∧
      answers deeds = [⟨.perform ⟨"wait",.effect,.gate⟩ {} (.signal ⟨.go,0⟩),.ok ()⟩] ∧ later.macrosteps = [] := by
  have made : Path (.fresh curtain {}) [] [] _ := .here
  have started := made.onward (.turn (.start true))
  have committed := started.onward (.turn (.go rfl))
  have told := committed.onward (.turn (.go rfl))
  have drained := told.onward (.turn (.go rfl))
  have sent := drained.onward (.turn (.send (Bench.Signal.mk .go 0)))
  have taken := sent.onward (.turn (.go rfl))
  have joined := taken.onward .join
  have stopped := joined.onward (.turn .stop)
  have anew : ∀ {deeds log here}, (fresh curtain {}).Path deeds log here → here.Path [] [] here := fun _ => .here
  have released := (anew stopped).onward (.turn (.go rfl))
  have back := released.onward (@Moves.back _ _ _ [] _)
  have answered := back.onward (.turn (.answer rfl (by exact Except.ok ())))
  have discarded := answered.onward (.turn (.go rfl))
  refine ⟨_,_,_,_,⟨_,_,stopped⟩,⟨rfl,?_⟩,List.cons_ne_nil _ _,discarded,rfl,rfl⟩
  intro pending member
  cases List.mem_singleton.mp member

theorem curtain_terminal_freeze :
    ∃ (here later : Gathering Bench.machine) (deeds : List (Deed Bench.machine)) (log : List (Note Bench.machine)),
      here.Reachable curtain {} ∧ here.Ended ∧ here.macrosteps ≠ [] ∧ here.Path deeds log later ∧
      answers deeds ≠ [] ∧ later.macrosteps = [] ∧ later.self.core.committed = here.self.core.committed ∧
      later.self.start true = (later.self,some (.started (.error .alreadyStarted))) := by
  obtain ⟨here,later,deeds,log,reachable,ended,busy,path,asked,past⟩ := curtain_falls
  obtain ⟨_,freeze⟩ := terminal_freeze reachable ended
  obtain ⟨same,_,_,refused,_⟩ := freeze deeds log later path
  exact ⟨here,later,deeds,log,reachable,ended,busy,path,by simp [asked],past,same,refused true⟩

end Gathering

end Statechart
