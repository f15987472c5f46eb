import Statechart.Bench.Vocabulary
import Statechart.Proofs.Deliveries

/-!
# Stopping during a start

While a start computes its macrostep, a callback of it or another caller may stop the interpreter. If
the macrostep succeeds nonetheless, nothing of it is committed and the interpreter stays stopped for
good. If it fails, the start takes back the stop as well (`stop_during_start`).
-/
namespace Statechart

variable {M : Machine} {graph : Graph M} {options : Options}

/-! ## Nothing follows an end -/

/-- Nobody brings an interpreter that has been stopped or has failed back to life, once no start is
computed any more. -/
theorem Turn.ended {self next : Interpreter M} {others : List (Frame M)} {deed : Deed M}
    (turn : Turn self deed next) (sound : Sound graph options self others)
    (past : self.core.status = .stopped ∨ self.core.status = .failed)
    (idle : (self.stack ++ others).filter Frame.isMacrostep = []) :
    next.core = self.core ∧ produced (self.notes next deed) = [] := by
  constructor
  · rcases turn.ends_for_good sound past with kept | ⟨_,pending,top⟩
    · exact kept
    · rw [top] at idle
      cases idle
  · rcases turn.circulates others with step | ⟨_,_,produces,_⟩
    · exact step.unproduced
    · exact absurd past produces.unended

namespace Gathering

theorem Moves.ended {here next : Gathering M} {deed : Deed M} (moves : here.Moves deed next)
    (sound : Sound graph options here.self here.waiting.flatten)
    (past : here.self.core.status = .stopped ∨ here.self.core.status = .failed) (idle : here.macrosteps = []) :
    next.self.core = here.self.core ∧ next.macrosteps = [] ∧ produced (here.self.notes next.self deed) = [] := by
  have after : next.macrosteps = [] := by
    rcases moves.course sound with ⟨_,none⟩ | ⟨_,_,begins,_⟩ | ⟨_,_,one,_⟩ | ⟨_,_,none,_⟩
    · exact none
    · cases begins with
      | start _ unstarted => rw [unstarted] at past; simp at past
      | take _ _ running _ => rw [running] at past; simp at past
    · rw [idle] at one; cases one
    · exact none
  cases moves with
  | turn turn =>
    obtain ⟨same,silent⟩ := turn.ended sound past idle
    exact ⟨same,after,silent⟩
  | back => exact ⟨rfl,after,rfl⟩
  | join => exact ⟨rfl,after,rfl⟩

/-- An interpreter that has been stopped or has failed stays as it is and produces nothing more. -/
theorem Path.ended {first last : Gathering M} {deeds : List (Deed M)} {log : List (Note M)}
    (path : first.Path deeds log last) (sound : Sound graph options first.self first.waiting.flatten)
    (past : first.self.core.status = .stopped ∨ first.self.core.status = .failed) (idle : first.macrosteps = []) :
    last.self.core = first.self.core ∧ last.macrosteps = [] ∧ produced log = [] := by
  induction path with
  | here => exact ⟨rfl,idle,rfl⟩
  | onward path moves ih =>
    obtain ⟨same,none,silent⟩ := ih
    obtain ⟨kept,after,unnoted⟩ := moves.ended (path.sound sound) (by rw [same]; exact past) none
    refine ⟨kept.trans same,after,?_⟩
    rw [produced_append,silent,unnoted]
    rfl

end Gathering

/-! ## While a start is computed -/

/-- While a start is computed, only stopping changes anything that is committed. -/
theorem Turn.during_start {self next : Interpreter M} {others : List (Frame M)} {deed : Deed M}
    {pending : Pending M} (turn : Turn self deed next) (sound : Sound graph options self others)
    (one : (self.stack ++ others).filter Frame.isMacrostep = [.starting pending])
    (busy : (next.stack ++ others).filter Frame.isMacrostep ≠ []) :
    (deed = .stop ∧ next = self.stop.1) ∨
      (deed ≠ .stop ∧ next.core = self.core ∧ produced (self.notes next deed) = []) := by
  have member : .starting pending ∈ self.stack ++ others :=
    (List.mem_filter.mp (one ▸ List.mem_singleton_self _)).1
  obtain ⟨status,clocked',alive,core⟩ := sound.starting pending member
  have started : self.core.status ≠ .notStarted := by rcases alive with alive | alive <;> simp [core,alive]
  have idle : self.core.activities = [] := by rw [core]; rfl
  cases turn with
  | start clocked =>
    rcases self.start_cases clocked with ⟨_,result⟩ | ⟨unstarted,_⟩ | ⟨unstarted,_⟩
    · rw [result]; exact .inr ⟨by simp,rfl,Interpreter.produced_notes (Nat.le_refl _)⟩
    · exact absurd unstarted started
    · exact absurd unstarted started
  | send signal =>
    refine .inr ⟨by simp,self.core_post _,?_⟩
    rcases self.post_cases (.signal signal) with ⟨_,result⟩ | ⟨_,result⟩ | ⟨_,_,result⟩ | ⟨_,_,result⟩
    · rw [result]; exact Interpreter.produced_notes (Nat.le_refl _)
    · rw [result]; exact Interpreter.produced_notes (Nat.le_refl _)
    · rw [result]; exact Interpreter.produced_notes (Nat.le_refl _)
    · rw [result]; rfl
  | stop => exact .inl ⟨rfl,rfl⟩
  | subscribe listener => exact .inr ⟨by simp,rfl,Interpreter.produced_notes (Nat.le_refl _)⟩
  | unsubscribe number => exact .inr ⟨by simp,rfl,Interpreter.produced_notes (Nat.le_refl _)⟩
  | answer asked given =>
    rcases Interpreter.resume_cases asked with ⟨below,top,resumed⟩ | ⟨_,_,_,below,top,resumed⟩
    · rw [resumed]; exact .inr ⟨by simp,rfl,Interpreter.produced_notes (by rw [top]; exact Nat.le_refl _)⟩
    · rw [resumed]; exact .inr ⟨by simp,rfl,Interpreter.produced_notes (by rw [top]; exact Nat.le_refl _)⟩
  | told top => rw [Interpreter.notified_eq top]; exact .inr ⟨by simp,rfl,produced_calls _ _⟩
  | go _ =>
    refine .inr ⟨by simp,?_⟩
    have ticks := self.ticks
    generalize self.tick.1 = next at ticks busy ⊢
    cases ticks with
    | startCommitted top _ => exact absurd (sound.no_other top rfl) busy
    | startOverruled top _ => exact absurd (sound.no_other top rfl) busy
    | startFailed top => exact absurd (sound.no_other top rfl) busy
    | drained top _ => exact absurd (sound.no_other top rfl) busy
    | taken top _ _ _ =>
      rw [top] at one
      exact absurd ((sound.no_other top rfl).symm.trans one) (by simp)
    | dropped _ _ _ => exact ⟨rfl,Interpreter.produced_notes (Nat.le_refl _)⟩
    | stepCommitted top _ => exact absurd (sound.no_other top rfl) busy
    | stepOverruled top _ => exact absurd (sound.no_other top rfl) busy
    | faulted top _ _ => exact absurd (sound.no_other top rfl) busy
    | stepFailed top _ => exact absurd (sound.no_other top rfl) busy
    | released top _ => exact ⟨rfl,Interpreter.produced_notes (by rw [top]; exact Nat.le_succ _)⟩
    | heard top _ => exact ⟨rfl,Interpreter.produced_notes (by rw [top]; exact Nat.le_succ _)⟩
    | idle _ => exact ⟨rfl,Interpreter.produced_notes (Nat.le_refl _)⟩
  | sleep found _ => rw [idle] at found; cases found
  | deliver found _ => rw [idle] at found; cases found

/-- The core of an interpreter whose start is being computed, or has been stopped meanwhile. -/
def Core.unsettled (graph : Graph M) (options : Options) (status : Status) (clocked : Bool) : Core M :=
  { Core.fresh graph options with status, clocked }

/-- The snapshot that stopping during a start produces. -/
def Graph.stopped (graph : Graph M) : Snapshot M.State M.Context := ⟨graph.initial,graph.context,.stopped⟩

/-- The first to stop the interpreter produces its final snapshot. -/
theorem Interpreter.stop_of_running {self : Interpreter M} {clocked : Bool}
    (core : self.core = .unsettled graph options .running clocked) :
    self.stop.1.core = .unsettled graph options .stopped clocked ∧
      produced (self.notes self.stop.1 .stop) = [graph.stopped] := by
  rcases self.stop_cases with ⟨past,_⟩ | ⟨_,_,result⟩
  · rw [core] at past
    simp [Core.unsettled] at past
  · rw [result,close,core]
    constructor
    · rfl
    · simp [publish,push,notes,Core.unsettled,Core.close,Core.snapshot,Core.fresh,Graph.stopped]

theorem Interpreter.stop_of_stopped {self : Interpreter M} {clocked : Bool}
    (core : self.core = .unsettled graph options .stopped clocked) :
    self.stop.1.core = .unsettled graph options .stopped clocked ∧ produced (self.notes self.stop.1 .stop) = [] := by
  rcases self.stop_cases with ⟨_,result⟩ | ⟨unstopped,_,_⟩
  · rw [result]
    exact ⟨core,produced_notes (Nat.le_refl _)⟩
  · rw [core] at unstopped
    exact absurd rfl unstopped

namespace Gathering

theorem Moves.during_start {here next : Gathering M} {deed : Deed M} {pending : Pending M}
    (moves : here.Moves deed next) (sound : Sound graph options here.self here.waiting.flatten)
    (one : here.macrosteps = [.starting pending]) (busy : next.macrosteps ≠ []) :
    (deed = .stop ∧ next.self = here.self.stop.1) ∨
      (deed ≠ .stop ∧ next.self.core = here.self.core ∧ produced (here.self.notes next.self deed) = []) := by
  cases moves with
  | turn turn => exact turn.during_start sound one busy
  | back => exact .inr ⟨by simp,rfl,rfl⟩
  | join => exact .inr ⟨by simp,rfl,rfl⟩

/-- What is left of the macrostep of a start, and whether anyone has stopped the interpreter since. -/
theorem Underway.during_start {first here : Gathering M} {clocked : Bool} {deeds : List (Deed M)}
    {log : List (Note M)} (underway : first.Underway (.start clocked) deeds log here)
    (sound : Sound graph options first.self first.waiting.flatten) :
    ∃ pending, here.macrosteps = [.starting pending] ∧
      (graph.begin options.maxMicrosteps).run.Leads (answers deeds) pending ∧
      ((.stop ∉ deeds ∧ here.self.core = .unsettled graph options .running clocked ∧ produced log = []) ∨
        (.stop ∈ deeds ∧ here.self.core = .unsettled graph options .stopped clocked ∧ produced log = [graph.stopped])) := by
  induction underway with
  | begun idle moves busy =>
    cases moves with
    | @turn self _ _ _ turn =>
      cases turn with
      | start clocked =>
        rcases self.start_cases clocked with ⟨_,result⟩ | ⟨_,result⟩ | ⟨unstarted,result⟩
        · rw [result] at busy; exact absurd idle busy
        · rw [result] at busy; exact absurd idle busy
        · have untouched : self.core = .fresh graph options := (sound.unstarted unstarted).2.2
          rw [result]
          refine ⟨_,congrArg (List.cons _) idle,?_,.inl ⟨by simp,?_,rfl⟩⟩
          · rw [sound.graph_eq,sound.options_eq]; exact .here _
          · rw [untouched]; rfl
  | @onward deeds log deed here next underway moves busy ih =>
    obtain ⟨pending,one,leads,phase⟩ := ih
    have sound := underway.path.sound sound
    have advanced : ∃ later, next.macrosteps = [.starting later] ∧ pending.Leads (answers [deed]) later := by
      rcases moves.course sound with ⟨none,_⟩ | ⟨none,_⟩ | ⟨frame,later,before,after,advances⟩ | ⟨_,_,none,_⟩
      · rw [one] at none; cases none
      · rw [one] at none; cases none
      · rw [one] at before
        cases before
        cases advances with
        | starting further => exact ⟨_,after,further⟩
      · exact absurd none busy
    obtain ⟨later,still,further⟩ := advanced
    refine ⟨later,still,?_,?_⟩
    · rw [answers_append]
      exact leads.trans further
    · rw [produced_append]
      rcases moves.during_start sound one busy with ⟨stops,goes⟩ | ⟨other,same,silent⟩
      · rw [stops,goes]
        rcases phase with ⟨_,core,unproduced⟩ | ⟨_,core,once⟩
        · obtain ⟨kept,final⟩ := Interpreter.stop_of_running core
          exact .inr ⟨by simp,kept,by rw [unproduced,final]; rfl⟩
        · obtain ⟨kept,none⟩ := Interpreter.stop_of_stopped core
          exact .inr ⟨by simp,kept,by rw [once,none]; rfl⟩
      · rcases phase with ⟨unstopped,core,unproduced⟩ | ⟨stopped,core,once⟩
        · refine .inl ⟨?_,same.trans core,by rw [unproduced,silent]; rfl⟩
          simp [unstopped,Ne.symm other]
        · exact .inr ⟨List.mem_append_left _ stopped,same.trans core,by rw [once,silent]; rfl⟩

end Gathering

/-- A start whose macrostep has failed undoes what it has set, and nothing else. -/
theorem Interpreter.tick_of_failed_start {self : Interpreter M} {failure : Failure M.State} {below : List (Frame M)}
    (top : self.stack = .starting (.done (.error failure)) :: below) :
    self.tick.1 = { self with
      core := { self.core with status := .notStarted, clocked := false }
      mailbox := []
      draining := false
      stack := below } := by
  rw [tick,top]
  rfl

/-- What becomes of a start during which somebody has stopped the interpreter. -/
theorem Interpreter.tick_of_stopped {self : Interpreter M} {clocked : Bool}
    {result : Except (Failure M.State) (Step M)} {below : List (Frame M)}
    (top : self.stack = .starting (.done result) :: below)
    (core : self.core = .unsettled graph options .stopped clocked) :
    produced (self.notes self.tick.1 .go) = [] ∧
    match result with
    | .ok _ => self.tick.1 = { self with stack := .draining (.start graph.stopped) none :: below }
    | .error _ => self.tick.1 = { self with
        core := .fresh graph options, mailbox := [], draining := false, stack := below } := by
  cases result with
  | ok step =>
    have refused : self.core.admits step = false := by rw [core]; rfl
    have goes : self.tick.1 = { self with stack := .draining (.start graph.stopped) none :: below } := by
      simp only [tick,top,finishStart,refused]
      rw [core]
      rfl
    refine ⟨?_,goes⟩
    rw [goes]
    exact produced_notes (by rw [top]; exact Nat.le_refl _)
  | error failure =>
    have goes : self.tick.1 = { self with
        core := .fresh graph options, mailbox := [], draining := false, stack := below } := by
      rw [tick_of_failed_start top,core]
      rfl
    refine ⟨?_,goes⟩
    rw [goes]
    exact produced_notes (by rw [top]; exact Nat.le_succ _)

namespace Gathering

/-- The end of a start during which somebody has stopped the interpreter. -/
theorem Episode.of_stopped_start {first next : Gathering M} {clocked : Bool} {deeds : List (Deed M)}
    {log : List (Note M)} (episode : first.Episode (.start clocked) deeds log next)
    (sound : Sound graph options first.self first.waiting.flatten) (stopped : .stop ∈ deeds) :
    ∃ (result : Except (Failure M.State) (Step M)) (last : Gathering M) (below : List (Frame M)),
      (graph.begin options.maxMicrosteps).run.Leads (answers deeds) (.done result) ∧
      last.self.stack = .starting (.done result) :: below ∧
      last.self.core = .unsettled graph options .stopped clocked ∧
      next = ⟨last.self.tick.1,last.waiting⟩ ∧ produced log = [graph.stopped] := by
  cases episode with
  | atOnce _ _ _ => cases stopped
  | @later before log deed here _ underway moves past =>
    obtain ⟨pending,one,leads,phase⟩ := underway.during_start sound
    rcases moves.course (underway.path.sound sound) with ⟨none,_⟩ | ⟨none,_⟩ | ⟨_,_,_,some,_⟩ | ⟨frame,last,_,finishes⟩
    · rw [one] at none; cases none
    · rw [one] at none; cases none
    · rw [past] at some; cases some
    · rw [one] at last
      cases last
      cases finishes with
      | @start result below top =>
        have earlier : .stop ∈ before := by simpa using stopped
        rcases phase with ⟨unstopped,_⟩ | ⟨_,core,once⟩
        · exact absurd earlier unstopped
        · refine ⟨result,here,below,?_,top,core,moves.of_go,?_⟩
          · rw [answers_append]
            simpa [answers] using leads
          · rw [produced_append,once,moves.of_go,(Interpreter.tick_of_stopped top core).1]
            rfl

/-- When an interpreter is stopped while its start is computed, the stop is final if the macrostep of
the start succeeds. If the macrostep fails, the interpreter is as if it had not been started: it can be
started anew. -/
theorem stop_during_start {first next : Gathering M} {clocked : Bool} {deeds : List (Deed M)}
    {log : List (Note M)} (reachable : first.Reachable graph options)
    (episode : first.Episode (.start clocked) deeds log next) (stopped : .stop ∈ deeds) :
    ∃ result, (graph.begin options.maxMicrosteps).run.Leads (answers deeds) (.done result) ∧
      produced log = [graph.stopped] ∧
      match result with
      | .ok _ =>
        next.self.core = .unsettled graph options .stopped clocked ∧
        (∃ below, next.self.stack = .draining (.start graph.stopped) none :: below) ∧
        ∀ later log last, next.Path later log last →
          last.self.core = next.self.core ∧ produced log = [] ∧
          (∀ clocked, last.self.start clocked = (last.self,some (.started (.error .alreadyStarted)))) ∧
          ∀ signal, last.self.post (.signal signal) = (last.self,some (.posted (.ok ())))
      | .error _ =>
        next.self.core = .fresh graph options ∧ (next.self.start true).2 = none ∧
        ∀ event, next.self.post event = (next.self,some (.posted (.error .notStarted))) := by
  have sound := reachable.sound
  obtain ⟨result,last,below,leads,top,core,goes,once⟩ := episode.of_stopped_start sound stopped
  have ticked := (Interpreter.tick_of_stopped top core).2
  refine ⟨result,leads,once,?_⟩
  cases result with
  | ok step =>
    have kept : next.self.core = .unsettled graph options .stopped clocked := by rw [goes,ticked]; exact core
    refine ⟨kept,⟨below,by rw [goes,ticked]⟩,?_⟩
    intro later log last path
    have past : next.self.core.status = .stopped := by rw [kept]; rfl
    obtain ⟨same,_,silent⟩ := path.ended (episode.path.sound sound) (.inl past) episode.no_macrostep
    have stopped : last.self.core.status = .stopped := by rw [same,past]
    refine ⟨same,silent,?_,?_⟩
    · intro clocked
      simp [Interpreter.start,stopped]
    · intro signal
      simp [Interpreter.post,stopped]
  | error failure =>
    have unstarted : next.self.core = .fresh graph options := by rw [goes,ticked]
    refine ⟨unstarted,?_,?_⟩
    · simp [Interpreter.start,unstarted,Core.fresh]
    · intro event
      simp [Interpreter.post,unstarted,Core.fresh]

/-- A chart whose first action stops the interpreter that is being started. -/
def brake (last : Bench.Effect) : Graph Bench.machine where
  id := "brake"
  initial := .a
  context := {}
  nodes := [
    { Node.empty (M := Bench.machine) .a with
      entry := [⟨"halt",.effect,.act 0 [.stop] 1⟩,⟨"last",.effect,last⟩] }]

/-- The first action stops and succeeds; the second one answers as given. -/
def brakeDeeds (last : Bench.Effect) (given : Except ActionError Unit) : List (Deed Bench.machine) := [
  .stop,
  .go,
  .answer (.perform ⟨"halt",.effect,.act 0 [.stop] 1⟩ {} .init) (.ok ()),
  .answer (.perform ⟨"last",.effect,last⟩ {} .init) given,
  .go]

theorem brake_stop_during_start :
    ∃ log next, Episode (.fresh (brake .plain) {}) (.start true) (brakeDeeds .plain (.ok ())) log next ∧
      next.self.core.status = .stopped ∧ produced log = [(brake .plain).stopped] ∧
      ∀ later log last, next.Path later log last → last.self.core = next.self.core := by
  have begun : Underway (.fresh (brake .plain) {}) (.start true) [] _ _ :=
    .begun rfl (.turn (.start true)) (List.cons_ne_nil _ _)
  have stopped := begun.onward (.turn .stop) (List.cons_ne_nil _ _)
  have released := stopped.onward (.turn (.go rfl)) (List.cons_ne_nil _ _)
  have halted := released.onward (.turn (.answer rfl (by exact Except.ok ()))) (List.cons_ne_nil _ _)
  have done := halted.onward (.turn (.answer rfl (by exact Except.ok ()))) (List.cons_ne_nil _ _)
  have episode : Episode _ _ (brakeDeeds .plain (.ok ())) _ _ := .later done (.turn (.go rfl)) rfl
  have reachable : Reachable (brake .plain) {} (.fresh (brake .plain) {}) := ⟨[],[],.here⟩
  obtain ⟨result,leads,once,outcome⟩ := stop_during_start reachable episode List.mem_cons_self
  have succeeds : ((brake .plain).begin 32).run.Leads (answers (brakeDeeds .plain (.ok ()))) (.done (.ok _)) :=
    .answer (.answer (.here _))
  cases succeeds.unique leads
  exact ⟨_,_,episode,rfl,once,fun later log last path => (outcome.2.2 later log last path).1⟩

/-- The stop is lost when an action fails after it: the interpreter can be started anew. -/
theorem brake_lost :
    ∃ log next, Episode (.fresh (brake (.fail "broken")) {}) (.start true)
        (brakeDeeds (.fail "broken") (.error ⟨"broken"⟩)) log next ∧
      .stop ∈ brakeDeeds (.fail "broken") (.error ⟨"broken"⟩) ∧
      next.self.core.status ≠ .stopped ∧ (next.self.start true).2 = none := by
  have begun : Underway (.fresh (brake (.fail "broken")) {}) (.start true) [] _ _ :=
    .begun rfl (.turn (.start true)) (List.cons_ne_nil _ _)
  have stopped := begun.onward (.turn .stop) (List.cons_ne_nil _ _)
  have released := stopped.onward (.turn (.go rfl)) (List.cons_ne_nil _ _)
  have halted := released.onward (.turn (.answer rfl (by exact Except.ok ()))) (List.cons_ne_nil _ _)
  have broken := halted.onward (.turn (.answer rfl (by exact Except.error (ActionError.mk "broken"))))
    (List.cons_ne_nil _ _)
  have episode : Episode _ _ (brakeDeeds (.fail "broken") (.error ⟨"broken"⟩)) _ _ :=
    .later broken (.turn (.go rfl)) rfl
  exact ⟨_,_,episode,List.mem_cons_self,by decide,rfl⟩

end Gathering

end Statechart
