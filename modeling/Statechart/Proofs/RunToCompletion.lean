import Statechart.Bench.Vocabulary
import Statechart.Proofs.Ownership

/-!
# Run to completion: no update is lost

A macrostep is computed from a copy of what has been committed last, while callers of every kind may
call in. When it is committed, nothing else has been committed in between: what it replaces is
exactly what it was computed from (`run_to_completion`).
-/
namespace Statechart

variable {M : Machine} {graph : Graph M} {options : Options}

/-- What commits change, and nothing else. -/
structure Committed (M : Machine) where
  state : M.State
  context : M.Context
  generation : Generation
  history : History M.State Unit

namespace Committed

/-- Nothing committed yet: a start is computed from this. -/
def initial (graph : Graph M) (options : Options) : Committed M :=
  ⟨graph.initial,graph.context,.first,.bounded options.historyLimit⟩

/-- What has been committed once a step is committed, too. -/
def after (committed : Committed M) (step : Step M) : Committed M where
  state := step.state
  context := step.context
  generation := if step.entry.isSome then committed.generation.next else committed.generation
  history := step.records.foldl History.record committed.history

end Committed

/-- What has been committed last. -/
def Core.committed (core : Core M) : Committed M :=
  ⟨core.state,core.context,core.generation,core.history⟩

theorem Core.committed_commit (core : Core M) (step : Step M) :
    (core.commit step).committed = core.committed.after step := by
  cases entry : step.entry with
  | none => simp [Core.commit,Core.committed,Committed.after,entry]
  | some entered =>
    by_cases final : M.isFinal step.state = true
    · simp [Core.commit,Core.committed,Committed.after,entry,final]
    · by_cases clocked : core.clocked = true
      · simp [Core.commit,Core.committed,Committed.after,entry,final,clocked]
      · simp [Core.commit,Core.committed,Committed.after,entry,final,clocked]

/-- The step that a macrostep has come to. -/
def Frame.result? : Frame M → Option (Step M)
  | .starting (.done (.ok step)) => some step
  | .reacting _ _ _ (.done (.ok step)) => some step
  | _ => none

/-- The macrostep on top of the stack has come to a step that is to be committed. -/
def Interpreter.Commits (self : Interpreter M) (step : Step M) : Prop :=
  self.core.admits step = true ∧ ∃ frame below, self.stack = frame :: below ∧ frame.result? = some step

/-- A run, with what has been committed last: at first nothing, and then every step that is
committed follows upon the one before it. -/
inductive Gathering.Run (graph : Graph M) (options : Options) : Committed M → Gathering M → Prop where
  | fresh : Run graph options (.initial graph options) (.fresh graph options)
  | commit {last : Committed M} {here next : Gathering M} {step : Step M} :
      Run graph options last here → here.Moves .go next → here.self.Commits step →
        Run graph options (last.after step) next
  | other {last : Committed M} {here next : Gathering M} {deed : Deed M} :
      Run graph options last here → here.Moves deed next →
        (deed = .go → ∀ step, ¬ here.self.Commits step) → Run graph options last next

/-- What is left of a macrostep, after some answers, when all of it is computed from what had been
committed at one moment. -/
def Frame.ComputedFrom (graph : Graph M) (options : Options) (basis : Committed M)
    (given : List ((query : Query M) × query.Answer)) : Frame M → Prop
  | .starting pending =>
    basis = .initial graph options ∧ (graph.begin options.maxMicrosteps).run.Leads given pending
  | .reacting _ _ event pending =>
    (∀ origin, event.origin = some origin → origin = ⟨basis.state,basis.generation⟩) ∧
      (graph.react options.maxMicrosteps basis.state basis.context event).run.Leads given pending
  | _ => False

/-! ## What deeds change -/

theorem Interpreter.core_post (self : Interpreter M) (event : Event M) :
    (self.post event).1.core = self.core := by
  rcases self.post_cases event with ⟨_,result⟩ | ⟨_,result⟩ | ⟨_,_,result⟩ | ⟨_,_,result⟩ <;> rw [result]

/-- Only a commit changes what has been committed last. -/
theorem Turn.committed {self next : Interpreter M} {deed : Deed M} (turn : Turn self deed next) :
    next.core.committed = self.core.committed ∨
      ∃ step, deed = .go ∧ self.Commits step ∧ next.core.committed = self.core.committed.after step := by
  cases turn with
  | start clocked =>
    rcases self.start_cases clocked with ⟨_,result⟩ | ⟨_,result⟩ | ⟨_,result⟩ <;> rw [result] <;> exact .inl rfl
  | send signal => rw [self.core_post]; exact .inl rfl
  | stop =>
    rcases self.stop_cases with ⟨_,result⟩ | ⟨_,_,result⟩ <;> rw [result] <;> exact .inl rfl
  | subscribe listener => exact .inl rfl
  | unsubscribe number => exact .inl rfl
  | answer asked given =>
    rcases Interpreter.resume_cases asked with ⟨_,_,resumed⟩ | ⟨_,_,_,_,_,resumed⟩ <;> rw [resumed] <;> exact .inl rfl
  | told top => rw [Interpreter.notified_eq top]; exact .inl rfl
  | go _ =>
    have ticks := self.ticks
    generalize self.tick.1 = next at ticks ⊢
    cases ticks with
    | startCommitted top admitted =>
      exact .inr ⟨_,rfl,⟨admitted,_,_,top,rfl⟩,self.core.committed_commit _⟩
    | stepCommitted top admitted =>
      exact .inr ⟨_,rfl,⟨admitted,_,_,top,rfl⟩,self.core.committed_commit _⟩
    | _ => exact .inl rfl
  | sleep _ _ => exact .inl rfl
  | deliver _ _ => rw [Interpreter.core_post]; exact .inl rfl

/-! ## The macrostep in progress -/

/-- How a deed begins a macrostep. -/
inductive Interpreter.Begins (self : Interpreter M) : Deed M → Frame M → Prop where
  | start (clocked : Bool) (unstarted : self.core.status = .notStarted) :
      Begins self (.start clocked) (.starting (self.graph.begin self.options.maxMicrosteps).run)
  | take {drainer : Drainer M} {firstError : Option (Failure M.State)} {event : Event M}
      {rest : List (Event M)} {below : List (Frame M)}
      (top : self.stack = .draining drainer firstError :: below) (mail : self.mailbox = event :: rest)
      (running : self.core.status = .running) (accepted : self.core.accepts event = true) :
      Begins self .go (.reacting drainer firstError event
        (self.graph.react self.options.maxMicrosteps self.core.state self.core.context event).run)

/-- How answers take a macrostep on. -/
inductive Frame.Advances (given : List ((query : Query M) × query.Answer)) : Frame M → Frame M → Prop where
  | starting {pending later : Pending M} (leads : pending.Leads given later) :
      Advances given (.starting pending) (.starting later)
  | reacting {drainer : Drainer M} {firstError : Option (Failure M.State)} {event : Event M}
      {pending later : Pending M} (leads : pending.Leads given later) :
      Advances given (.reacting drainer firstError event pending)
        (.reacting drainer firstError event later)

theorem Frame.advances_refl {frame : Frame M} (macrostep : frame.isMacrostep = true) :
    frame.Advances [] frame := by
  cases frame with
  | starting pending => exact .starting (.here _)
  | reacting drainer firstError event pending => exact .reacting (.here _)
  | draining _ _ => cases macrostep
  | publishing _ _ _ => cases macrostep

/-- How a macrostep is over: the call on top of the stack, which has come to its result, goes on. -/
inductive Interpreter.Finishes (self : Interpreter M) : Deed M → Frame M → Prop where
  | start {result : Except (Failure M.State) (Step M)} {below : List (Frame M)}
      (top : self.stack = .starting (.done result) :: below) : Finishes self .go (.starting (.done result))
  | react {drainer : Drainer M} {firstError : Option (Failure M.State)} {event : Event M}
      {result : Except (Failure M.State) (Step M)} {below : List (Frame M)}
      (top : self.stack = .reacting drainer firstError event (.done result) :: below) :
      Finishes self .go (.reacting drainer firstError event (.done result))

/-- What a deed makes of the macrosteps in progress: there is none, one begins, the one in progress
goes on, or it is over. -/
def Course (self : Interpreter M) (deed : Deed M) (before after : List (Frame M)) : Prop :=
  (before = [] ∧ after = []) ∨
  (before = [] ∧ ∃ frame, self.Begins deed frame ∧ after = [frame]) ∨
  (∃ frame later, before = [frame] ∧ after = [later] ∧ frame.Advances (answers [deed]) later) ∨
  ∃ frame, before = [frame] ∧ after = [] ∧ self.Finishes deed frame

theorem Interpreter.macrosteps_post (self : Interpreter M) (event : Event M) (others : List (Frame M)) :
    ((self.post event).1.stack ++ others).filter Frame.isMacrostep =
      (self.stack ++ others).filter Frame.isMacrostep := by
  rcases self.post_cases event with ⟨_,result⟩ | ⟨_,result⟩ | ⟨_,_,result⟩ | ⟨_,_,result⟩
  · rw [result]
  · rw [result]
  · rw [result]
  · rw [result]; rfl

theorem eq_of_perm_of_length_le_one {α : Type} {left right : List α} (same : left.Perm right)
    (few : right.length ≤ 1) : left = right := by
  match right with
  | [] => exact List.perm_nil.mp same
  | [_] => exact List.perm_singleton.mp same
  | _ :: _ :: _ => simp at few

namespace Sound

variable {self : Interpreter M} {others : List (Frame M)}

theorem macrosteps_le (sound : Sound graph options self others) :
    ((self.stack ++ others).filter Frame.isMacrostep).length ≤ 1 := by
  have flag := sound.flag
  have held := self.draining.toNat_le
  have fewer : (self.stack ++ others).countP Frame.isMacrostep ≤ (self.stack ++ others).countP Frame.holdsFlag :=
    List.countP_mono_left fun _ _ macrostep => Frame.holdsFlag_of_isMacrostep macrostep
  rw [← List.countP_eq_length_filter]
  omega

/-- Besides a start or drain there is no macrostep of anyone else. -/
theorem no_other (sound : Sound graph options self others) {frame : Frame M} {below : List (Frame M)}
    (top : self.stack = frame :: below) (holds : frame.holdsFlag = true) :
    (below ++ others).filter Frame.isMacrostep = [] := by
  rw [List.filter_eq_nil_iff]
  intro other member macrostep
  have free := sound.alone top holds other member
  rw [Frame.holdsFlag_of_isMacrostep macrostep] at free
  cases free

/-- A macrostep on top is the only one. -/
theorem only_macrostep (sound : Sound graph options self others) {frame : Frame M} {below : List (Frame M)}
    (top : self.stack = frame :: below) (macrostep : frame.isMacrostep = true) :
    (self.stack ++ others).filter Frame.isMacrostep = [frame] := by
  rw [top,List.cons_append,List.filter_cons_of_pos macrostep]
  rw [sound.no_other top (Frame.holdsFlag_of_isMacrostep macrostep)]

theorem no_macrostep (sound : Sound graph options self others) (released : self.draining = false) :
    (self.stack ++ others).filter Frame.isMacrostep = [] := by
  rw [List.filter_eq_nil_iff]
  intro frame member macrostep
  have free := sound.free released frame member
  rw [Frame.holdsFlag_of_isMacrostep macrostep] at free
  cases free

/-- A deed that is no answer leaves a macrostep alone unless it begins or ends one. -/
theorem unmoved (sound : Sound graph options self others) {deed : Deed M} {after : List (Frame M)}
    (same : after = (self.stack ++ others).filter Frame.isMacrostep) (silent : answers [deed] = []) :
    Course self deed ((self.stack ++ others).filter Frame.isMacrostep) after := by
  have few := sound.macrosteps_le
  subst same
  cases found : (self.stack ++ others).filter Frame.isMacrostep with
  | nil => exact .inl ⟨rfl,rfl⟩
  | cons frame rest =>
    have macrostep : frame.isMacrostep = true :=
      (List.mem_filter.mp (found ▸ List.mem_cons_self)).2
    rw [found,List.length_cons] at few
    have alone : rest = [] := List.length_eq_zero_iff.mp (by omega)
    refine .inr (.inr (.inl ⟨frame,frame,by rw [alone],by rw [alone],?_⟩))
    rw [silent]
    exact Frame.advances_refl macrostep

/-- With the deed that finishes it, the macrostep on top is over. -/
theorem finished (sound : Sound graph options self others) {deed : Deed M} {frame : Frame M}
    {below after : List (Frame M)} (top : self.stack = frame :: below) (holds : frame.holdsFlag = true)
    (macrostep : frame.isMacrostep = true) (finishes : self.Finishes deed frame)
    (left : after = (below ++ others).filter Frame.isMacrostep) :
    Course self deed ((self.stack ++ others).filter Frame.isMacrostep) after := by
  have none := sound.no_other top holds
  refine .inr (.inr (.inr ⟨frame,?_,left.trans none,finishes⟩))
  rw [top,List.cons_append,List.filter_cons_of_pos macrostep,none]

theorem course_tick (sound : Sound graph options self others) :
    Course self .go ((self.stack ++ others).filter Frame.isMacrostep)
      ((self.tick.1.stack ++ others).filter Frame.isMacrostep) := by
  have ticks := self.ticks
  generalize self.tick.1 = next at ticks ⊢
  cases ticks with
  | startCommitted top _ => exact sound.finished top rfl rfl (.start top) rfl
  | startOverruled top _ => exact sound.finished top rfl rfl (.start top) rfl
  | startFailed top => exact sound.finished top rfl rfl (.start top) rfl
  | drained top _ => exact sound.unmoved (by rw [top]; rfl) rfl
  | taken top mail running accepted =>
    have none := sound.no_other top rfl
    refine .inr (.inl ⟨?_,_,.take top mail running accepted,?_⟩)
    · rw [top]; exact none
    · exact congrArg (List.cons _) none
  | dropped _ _ _ => exact sound.unmoved rfl rfl
  | stepCommitted top _ => exact sound.finished top rfl rfl (.react top) rfl
  | stepOverruled top _ => exact sound.finished top rfl rfl (.react top) rfl
  | faulted top _ _ => exact sound.finished top rfl rfl (.react top) rfl
  | stepFailed top _ => exact sound.finished top rfl rfl (.react top) rfl
  | released top _ => exact sound.unmoved (by rw [top]; rfl) rfl
  | heard top _ => exact sound.unmoved (by rw [top]; rfl) rfl
  | idle => exact sound.unmoved rfl rfl

theorem course_turn (sound : Sound graph options self others) {deed : Deed M} {next : Interpreter M}
    (turn : Turn self deed next) :
    Course self deed ((self.stack ++ others).filter Frame.isMacrostep)
      ((next.stack ++ others).filter Frame.isMacrostep) := by
  cases turn with
  | start clocked =>
    rcases self.start_cases clocked with ⟨_,result⟩ | ⟨_,result⟩ | ⟨unstarted,result⟩
    · rw [result]; exact sound.unmoved rfl rfl
    · rw [result]; exact sound.unmoved rfl rfl
    · have none := sound.no_macrostep (sound.unstarted unstarted).1
      rw [result]
      exact .inr (.inl ⟨none,_,.start clocked unstarted,congrArg (List.cons _) none⟩)
  | send signal => exact sound.unmoved (self.macrosteps_post _ _) rfl
  | stop =>
    rcases self.stop_cases with ⟨_,result⟩ | ⟨_,_,result⟩
    · rw [result]; exact sound.unmoved rfl rfl
    · rw [result]; exact sound.unmoved rfl rfl
  | subscribe listener => exact sound.unmoved rfl rfl
  | unsubscribe number => exact sound.unmoved rfl rfl
  | answer asked given =>
    rcases Interpreter.resume_cases asked with ⟨below,top,resumed⟩ | ⟨drainer,firstError,event,below,top,resumed⟩
    · have none := sound.no_other top rfl
      rw [resumed,top]
      refine .inr (.inr (.inl ⟨_,_,congrArg (List.cons _) none,congrArg (List.cons _) none,?_⟩))
      exact .starting (.answer (.here _))
    · have none := sound.no_other top rfl
      rw [resumed,top]
      refine .inr (.inr (.inl ⟨_,_,congrArg (List.cons _) none,congrArg (List.cons _) none,?_⟩))
      exact .reacting (.answer (.here _))
  | told top =>
    rw [Interpreter.notified_eq top]
    exact sound.unmoved (by rw [top]; rfl) rfl
  | go _ => exact sound.course_tick
  | sleep _ _ => exact sound.unmoved rfl rfl
  | deliver _ _ => exact sound.unmoved (Interpreter.macrosteps_post _ _ _) rfl

end Sound

theorem Gathering.Moves.course {here next : Gathering M} {deed : Deed M}
    (moves : here.Moves deed next) (sound : Sound graph options here.self here.waiting.flatten) :
    Course here.self deed here.macrosteps next.macrosteps := by
  cases moves with
  | turn turn => exact sound.course_turn turn
  | back =>
    apply sound.unmoved _ rfl
    exact eq_of_perm_of_length_le_one ((back_perm _ _ _ _).filter _) sound.macrosteps_le
  | join => exact sound.unmoved (by simp [macrosteps,frames]) rfl

/-! ## What a macrostep is computed from -/

theorem Frame.ComputedFrom.advance {frame later : Frame M} {basis : Committed M}
    {given more : List ((query : Query M) × query.Answer)} (computed : frame.ComputedFrom graph options basis given)
    (advances : frame.Advances more later) : later.ComputedFrom graph options basis (given ++ more) := by
  cases advances with
  | starting leads => exact ⟨computed.1,computed.2.trans leads⟩
  | reacting leads => exact ⟨computed.1,computed.2.trans leads⟩

/-- A macrostep is computed from what has been committed last when it begins. -/
theorem Interpreter.Begins.computed {self : Interpreter M} {others : List (Frame M)} {deed : Deed M}
    {frame : Frame M} (begins : self.Begins deed frame) (sound : Sound graph options self others) :
    frame.ComputedFrom graph options self.core.committed [] := by
  have graphs := sound.graph_eq
  have limits := sound.options_eq
  cases begins with
  | start clocked unstarted =>
    have untouched := (sound.unstarted unstarted).2.2
    rw [graphs,limits,untouched]
    exact ⟨rfl,.here _⟩
  | take top mail running accepted =>
    rw [graphs,limits]
    refine ⟨?_,.here _⟩
    intro origin own
    have live : origin = self.core.origin := by simpa [Core.accepts,own] using accepted
    exact live

/-- A step that is to be committed is committed as soon as the call on top goes on, and then its
macrostep is over. -/
theorem Interpreter.Commits.tick {self : Interpreter M} {step : Step M} (commits : self.Commits step) :
    self.tick.1.core = self.core.commit step ∧
      ∃ frame below delivery drain, self.stack = frame :: below ∧ frame.holdsFlag = true ∧
        self.tick.1.stack = delivery :: drain :: below ∧
        delivery.isMacrostep = false ∧ drain.isMacrostep = false := by
  obtain ⟨admitted,frame,below,top,result⟩ := commits
  match frame, result with
  | .starting (.done (.ok _)), rfl =>
    refine ⟨?_,_,below,.publishing (self.core.commit step).snapshot self.registry.entries .startCommitted,
      .draining (.start (self.core.commit step).snapshot) none,top,rfl,?_,rfl,rfl⟩
    · simp [Interpreter.tick,top,finishStart,admitted,publish,push]
    · simp [Interpreter.tick,top,finishStart,admitted,publish,push]
  | .reacting drainer firstError _ (.done (.ok _)), rfl =>
    refine ⟨?_,_,below,.publishing (self.core.commit step).snapshot self.registry.entries .stepCommitted,
      .draining drainer firstError,top,rfl,?_,rfl,rfl⟩
    · simp [Interpreter.tick,top,finishStep,admitted,publish,push]
    · simp [Interpreter.tick,top,finishStep,admitted,publish,push]

namespace Gathering

theorem Moves.committed {here next : Gathering M} {deed : Deed M} (moves : here.Moves deed next) :
    next.self.core.committed = here.self.core.committed ∨
      ∃ step, deed = .go ∧ here.self.Commits step := by
  cases moves with
  | turn turn =>
    rcases turn.committed with same | ⟨step,go,commits,_⟩
    · exact .inl same
    · exact .inr ⟨step,go,commits⟩
  | back => exact .inl rfl
  | join => exact .inl rfl

/-- With a commit what has been committed last follows upon what was before, and no macrostep is
left. -/
theorem Moves.commit {here next : Gathering M} {step : Step M} (moves : here.Moves .go next)
    (commits : here.self.Commits step) (sound : Sound graph options here.self here.waiting.flatten) :
    next.self.core.committed = here.self.core.committed.after step ∧ next.macrosteps = [] := by
  cases moves with
  | turn turn =>
    cases turn with
    | go _ =>
      obtain ⟨core,frame,below,delivery,drain,top,holds,stack,delivers,drains⟩ := commits.tick
      refine ⟨?_,?_⟩
      · simp only [core]
        exact Core.committed_commit _ _
      · simp only [macrosteps,frames,stack,List.cons_append]
        rw [List.filter_cons_of_neg (by simp [delivers]),List.filter_cons_of_neg (by simp [drains])]
        exact sound.no_other top holds

theorem Run.reachable {last : Committed M} {here : Gathering M} (run : Run graph options last here) :
    here.Reachable graph options := by
  induction run with
  | fresh => exact ⟨[],[],.here⟩
  | commit _ moves _ ih =>
    obtain ⟨deeds,log,path⟩ := ih
    exact ⟨_,_,path.onward moves⟩
  | other _ moves _ ih =>
    obtain ⟨deeds,log,path⟩ := ih
    exact ⟨_,_,path.onward moves⟩

theorem Run.committed {last : Committed M} {here : Gathering M} (run : Run graph options last here) :
    here.self.core.committed = last := by
  induction run with
  | fresh => rfl
  | commit run moves commits ih =>
    rw [(moves.commit commits run.reachable.sound).1,ih]
  | other _ moves quiet ih =>
    rcases moves.committed with same | ⟨step,go,commits⟩
    · rw [same,ih]
    · exact absurd commits (quiet go step)

/-- Every macrostep in progress began when what has been committed last had been committed already,
and it is computed from that and from the answers given since. -/
theorem Run.computed {last : Committed M} {here : Gathering M} (run : Run graph options last here) :
    ∀ frame ∈ here.macrosteps, ∃ (first : Gathering M) (beginning : Deed M) (deeds : List (Deed M)) (log : List (Note M)),
      first.Run graph options last ∧ first.Underway beginning deeds log here ∧
        frame.ComputedFrom graph options last (answers deeds) := by
  induction run with
  | fresh =>
    intro frame member
    cases member
  | commit run moves commits _ =>
    intro frame member
    rw [(moves.commit commits run.reachable.sound).2] at member
    cases member
  | @other last before next deed run moves quiet ih =>
    intro frame member
    have sound := run.reachable.sound
    have inStep : next.macrosteps ≠ [] := List.ne_nil_of_mem member
    rcases moves.course sound with ⟨_,none⟩ | ⟨idle,begun,begins,one⟩ |
      ⟨old,later,before_eq,after_eq,advances⟩ | ⟨_,_,none,_⟩
    · exact absurd none inStep
    · rw [one,List.mem_singleton] at member
      subst member
      refine ⟨before,deed,[],_,run,.begun idle moves inStep,?_⟩
      rw [← run.committed]
      exact begins.computed sound
    · rw [after_eq,List.mem_singleton] at member
      subst member
      obtain ⟨first,beginning,deeds,log,began,underway,computed⟩ := ih old (by rw [before_eq]; simp)
      refine ⟨first,beginning,_,_,began,underway.onward moves inStep,?_⟩
      rw [answers_append]
      exact computed.advance advances
    · exact absurd none inStep

/-- A step that is to be committed is that of the macrostep in progress. -/
theorem Run.result {last : Committed M} {here : Gathering M} {step : Step M} (run : Run graph options last here)
    (commits : here.self.Commits step) : ∃ frame, here.macrosteps = [frame] ∧ frame.result? = some step := by
  obtain ⟨_,frame,below,top,result⟩ := commits
  have macrostep : frame.isMacrostep = true := by
    match frame, result with
    | .starting (.done (.ok _)), _ => rfl
    | .reacting _ _ _ (.done (.ok _)), _ => rfl
  exact ⟨frame,run.reachable.sound.only_macrostep top macrostep,result⟩

/-- Every run is a run of commits and other deeds. -/
theorem Reachable.run {here : Gathering M} (reachable : here.Reachable graph options) :
    ∃ last, here.Run graph options last := by
  obtain ⟨deeds,log,path⟩ := reachable
  induction path with
  | here => exact ⟨_,.fresh⟩
  | @onward _ _ deed before _ _ moves ih =>
    obtain ⟨last,run⟩ := ih
    by_cases commits : deed = .go ∧ ∃ step, before.self.Commits step
    · obtain ⟨go,step,commits⟩ := commits
      subst go
      exact ⟨_,run.commit moves commits⟩
    · refine ⟨last,run.other moves ?_⟩
      intro go step now
      exact commits ⟨go,step,now⟩

/-- At most one macrostep is in progress at any moment, whoever calls in and whenever. Whatever anyone
reads is what has been committed last, and the macrostep in progress is computed from just that: so a
step that is committed replaces exactly what it was computed from. -/
theorem run_to_completion {here : Gathering M} (reachable : here.Reachable graph options) :
    here.macrosteps.length ≤ 1 ∧
    (∃ last, here.Run graph options last ∧ here.self.core.committed = last ∧
      here.self.snapshot.state = last.state ∧ here.self.snapshot.context = last.context) ∧
    (∀ frame ∈ here.macrosteps,
      ∃ (first : Gathering M) (beginning : Deed M) (deeds : List (Deed M)) (log : List (Note M)),
        first.Run graph options here.self.core.committed ∧ first.Underway beginning deeds log here ∧
          frame.ComputedFrom graph options here.self.core.committed (answers deeds)) ∧
    ∀ step, here.self.Commits step →
      (∃ frame, here.macrosteps = [frame] ∧ frame.result? = some step) ∧
      ∀ next, here.Moves .go next → next.self.core.committed = here.self.core.committed.after step := by
  obtain ⟨last,run⟩ := reachable.run
  have same := run.committed
  refine ⟨reachable.sound.macrosteps_le,⟨last,run,same,?_,?_⟩,?_,?_⟩
  · rw [← same]; rfl
  · rw [← same]; rfl
  · rw [same]
    exact run.computed
  · intro step commits
    refine ⟨run.result commits,?_⟩
    intro next moves
    exact (moves.commit commits reachable.sound).1

/-- A door that waits for others while somebody goes through. -/
def door : Graph Bench.machine where
  id := "door"
  initial := .a
  context := {}
  nodes := [
    { Node.empty (M := Bench.machine) .a with on := [(.go,[⟨none,[⟨"wait",.effect,.gate⟩],some .b⟩])] },
    .empty .b]

/-- One caller is kept waiting at the door, and another one sends a signal meanwhile. -/
def doorAjar : Gathering Bench.machine where
  self := {
    graph := door
    options := {}
    core := {
      status := .running, state := .a, context := {}, generation := ⟨1⟩, history := ⟨[],some 128⟩
      clocked := true, fault := none, activities := [] }
    mailbox := [.signal ⟨.back,0⟩]
    draining := true
    registry := {}
    stack := [] }
  waiting := [[.reacting .poster none (.signal ⟨.go,0⟩) (door.react 32 .a {} (.signal ⟨.go,0⟩)).run]]

theorem door_ajar : Reachable door {} doorAjar := by
  have made : Path (.fresh door {}) [] [] _ := .here
  have started := made.onward (.turn (.start true))
  have committed := started.onward (.turn (.go rfl))
  have told := committed.onward (.turn (.go rfl))
  have drained := told.onward (.turn (.go rfl))
  have sent := drained.onward (.turn (.send (Bench.Signal.mk .go 0)))
  have taken := sent.onward (.turn (.go rfl))
  have joined := taken.onward .join
  have queued := joined.onward (.turn (.send (Bench.Signal.mk .back 0)))
  exact ⟨_,_,queued⟩

theorem door_run_to_completion :
    Reachable door {} doorAjar ∧ ∃ frame, doorAjar.macrosteps = [frame] ∧
      ∃ first beginning deeds log, Run door {} doorAjar.self.core.committed first ∧
        Underway first beginning deeds log doorAjar ∧
        frame.ComputedFrom door {} doorAjar.self.core.committed (answers deeds) := by
  obtain ⟨_,_,computed,_⟩ := run_to_completion door_ajar
  exact ⟨door_ajar,_,rfl,computed _ (List.mem_singleton_self _)⟩

end Gathering

end Statechart
