import Statechart.Bench.Vocabulary
import Statechart.Proofs.AbandonedSteps
import Statechart.Proofs.Announcements
import Statechart.Proofs.Promises
import Statechart.Proofs.StopDuringStart

/-!
# Publications: one snapshot for every change

A snapshot is produced when a step is committed, when the interpreter is stopped and when it faults, and
at no other time (`Annals.announced`). Whether a step is committed is decided when its macrostep ends: by
what it has taken, by what it has come to and by whether the interpreter is still running
(`one_snapshot_per_change`).
-/
namespace Statechart

variable {M : Machine} {graph : Graph M} {options : Options}

/-! ## What a moment announces -/

namespace Moment

/-- The failure of an activity's outcome to be processed, which ends a running interpreter. -/
def fault? (moment : Moment M) : Option (Failure M.State) :=
  match moment.deed, moment.here.self.stack with
  | .go, .reacting _ _ event (.done (.error failure)) :: _ =>
    if event.origin.isSome && moment.here.self.core.status = .running then some failure else none
  | _, _ => none

/-- The core that everybody is told of at a moment: the one with a step committed, the one of an
interpreter that has just failed, or the one of an interpreter that has just been stopped. -/
def announced? (moment : Moment M) : Option (Core M) :=
  let core := moment.here.self.core
  match moment.deed with
  | .go => (moment.step?.map core.commit).or (moment.fault?.map fun failure => core.close .failed (some failure))
  | .stop => if core.status = .stopped ∨ core.status = .failed then none else some (core.close .stopped core.fault)
  | _ => none

theorem fault?_eq_some_iff {moment : Moment M} {failure : Failure M.State} :
    moment.fault? = some failure ↔ moment.deed = .go ∧ ∃ drainer firstError event below,
      moment.here.self.stack = .reacting drainer firstError event (.done (.error failure)) :: below ∧
      event.origin.isSome = true ∧ moment.here.self.core.status = .running := by
  obtain ⟨here,deed⟩ := moment
  rw [fault?]
  constructor
  · intro faults
    split at faults
    · rename_i drainer firstError event other below go top
      split at faults
      · rename_i ends
        cases faults
        rw [Bool.and_eq_true,decide_eq_true_eq] at ends
        exact ⟨go,drainer,firstError,event,below,top,ends⟩
      · cases faults
    · cases faults
  · rintro ⟨go,drainer,firstError,event,below,top,outcome,running⟩
    simp only at go top running
    simp [go,top,outcome,running]

theorem fault?_eq_none {moment : Moment M} (other : moment.deed ≠ .go) : moment.fault? = none := by
  rw [Option.eq_none_iff_forall_ne_some]
  intro failure faults
  exact other (fault?_eq_some_iff.mp faults).1

/-- A step that has come to a result is not one that has failed. -/
theorem fault?_of_step? {moment : Moment M} {step : Step M} (commits : moment.step? = some step) :
    moment.fault? = none := by
  rw [Option.eq_none_iff_forall_ne_some]
  intro failure faults
  obtain ⟨_,_,_,_,top,result⟩ := step?_eq_some_iff.mp commits
  obtain ⟨_,_,_,_,_,failed,_⟩ := fault?_eq_some_iff.mp faults
  rw [failed] at top
  cases (List.cons.inj top).1
  cases result

theorem announced?_eq_some_iff {moment : Moment M} {core : Core M} :
    moment.announced? = some core ↔
      (∃ step, moment.step? = some step ∧ core = moment.here.self.core.commit step) ∨
      (∃ failure, moment.fault? = some failure ∧ core = moment.here.self.core.close .failed (some failure)) ∨
      (moment.deed = .stop ∧ moment.here.self.core.status ≠ .stopped ∧ moment.here.self.core.status ≠ .failed ∧
        core = moment.here.self.core.close .stopped moment.here.self.core.fault) := by
  by_cases go : moment.deed = .go
  · cases commits : moment.step? with
    | some step => simp [announced?,go,commits,fault?_of_step? commits,eq_comm]
    | none => cases faults : moment.fault? <;> simp [announced?,go,commits,faults,eq_comm]
  · by_cases stop : moment.deed = .stop
    · simp [announced?,stop,step?_eq_none go,fault?_eq_none go,not_or,and_assoc,eq_comm]
    · have silent : moment.announced? = none := by
        obtain ⟨here,deed⟩ := moment
        cases deed with
        | go => exact absurd rfl go
        | stop => exact absurd rfl stop
        | _ => rfl
      simp [silent,step?_eq_none go,fault?_eq_none go,stop]

theorem announced?_of_step? {moment : Moment M} {step : Step M} (commits : moment.step? = some step) :
    moment.announced? = some (moment.here.self.core.commit step) :=
  announced?_eq_some_iff.mpr (.inl ⟨step,commits,rfl⟩)

theorem announced?_of_fault? {moment : Moment M} {failure : Failure M.State} (faults : moment.fault? = some failure) :
    moment.announced? = some (moment.here.self.core.close .failed (some failure)) :=
  announced?_eq_some_iff.mpr (.inr (.inl ⟨failure,faults,rfl⟩))

end Moment

/-- Only going on and stopping produce snapshots. -/
theorem Turn.unproduced {self next : Interpreter M} {deed : Deed M} (turn : Turn self deed next)
    (still : deed ≠ .go) (unstopped : deed ≠ .stop) : produced (self.notes next deed) = [] := by
  rcases turn.circulates [] with step | ⟨_,_,produces,_⟩
  · exact step.unproduced
  · cases produces with
    | commit _ _ _ _ _ => exact absurd rfl still
    | fault _ _ _ _ => exact absurd rfl still
    | stop _ _ _ => exact absurd rfl unstopped

namespace Gathering

variable {first here next : Gathering M} {deed : Deed M} {trail : List (Moment M)} {log : List (Note M)}

/-- When the call on top goes on, a step is committed, or the interpreter faults, or nothing is announced. -/
theorem announces_tick (self : Interpreter M) (waiting : List (List (Frame M))) (free : self.prompt = none) :
    produced (self.notes self.tick.1 .go) =
      (⟨⟨self,waiting⟩,.go⟩ : Moment M).announced?.toList.map Core.snapshot ∧
    ∀ core, (⟨⟨self,waiting⟩,.go⟩ : Moment M).announced? = some core → self.tick.1.core = core := by
  -- where the call on top is no macrostep that has come to its end, nothing is announced
  have quiet : ∀ {next : Interpreter M}, produced (self.notes next .go) = [] →
      (⟨⟨self,waiting⟩,.go⟩ : Moment M).announced? = none →
      produced (self.notes next .go) = (⟨⟨self,waiting⟩,.go⟩ : Moment M).announced?.toList.map Core.snapshot ∧
        ∀ core, (⟨⟨self,waiting⟩,.go⟩ : Moment M).announced? = some core → next.core = core := by
    intro next unproduced silent
    rw [silent]
    exact ⟨unproduced,fun _ none => by cases none⟩
  have elsewhere : ∀ {frame : Frame M} {below : List (Frame M)}, self.stack = frame :: below →
      frame.isMacrostep = false → (⟨⟨self,waiting⟩,.go⟩ : Moment M).announced? = none := by
    intro frame below top other
    cases frame with
    | draining _ _ => simp [Moment.announced?,Moment.step?,Moment.fault?,top,Frame.result?]
    | publishing _ _ _ => simp [Moment.announced?,Moment.step?,Moment.fault?,top,Frame.result?]
    | _ => cases other
  have ticks := self.ticks
  generalize self.tick.1 = next at ticks ⊢
  cases ticks with
  | @startCommitted step _ top admitted =>
    have commits : (⟨⟨self,waiting⟩,.go⟩ : Moment M).step? = some step :=
      Moment.step?_eq_some_iff.mpr ⟨rfl,admitted,_,_,top,rfl⟩
    rw [Moment.announced?_of_step? commits]
    exact ⟨by simp [Interpreter.notes,top],fun _ same => Option.some.inj same⟩
  | @stepCommitted _ _ _ step _ top admitted =>
    have commits : (⟨⟨self,waiting⟩,.go⟩ : Moment M).step? = some step :=
      Moment.step?_eq_some_iff.mpr ⟨rfl,admitted,_,_,top,rfl⟩
    rw [Moment.announced?_of_step? commits]
    exact ⟨by simp [Interpreter.notes,top],fun _ same => Option.some.inj same⟩
  | @faulted _ _ _ failure _ top outcome running =>
    have faults : (⟨⟨self,waiting⟩,.go⟩ : Moment M).fault? = some failure :=
      Moment.fault?_eq_some_iff.mpr ⟨rfl,_,_,_,_,top,outcome,running⟩
    rw [Moment.announced?_of_fault? faults]
    exact ⟨by simp [Interpreter.notes,top],fun _ same => Option.some.inj same⟩
  | startOverruled top refused =>
    refine quiet (by rw [Interpreter.notes_of_silent rfl rfl]; rfl) ?_
    simp [Moment.announced?,Moment.step?,Moment.fault?,top,Frame.result?,refused]
  | stepOverruled top refused =>
    refine quiet (by rw [Interpreter.notes_of_silent rfl rfl]; rfl) ?_
    simp [Moment.announced?,Moment.step?,Moment.fault?,top,Frame.result?,refused]
  | stepFailed top spared =>
    refine quiet (by rw [Interpreter.notes_of_silent rfl rfl]; rfl) ?_
    simpa [Moment.announced?,Moment.step?,Moment.fault?,top,Frame.result?] using spared
  | startFailed top =>
    refine quiet (Interpreter.produced_notes (by rw [top]; exact Nat.le_succ _)) ?_
    simp [Moment.announced?,Moment.step?,Moment.fault?,top,Frame.result?]
  | drained top _ => exact quiet (Interpreter.produced_notes (by rw [top]; exact Nat.le_succ _)) (elsewhere top rfl)
  | taken top _ _ _ => exact quiet (by rw [Interpreter.notes_of_silent rfl rfl]; rfl) (elsewhere top rfl)
  | dropped top _ _ => exact quiet (Interpreter.produced_notes (Nat.le_refl _)) (elsewhere top rfl)
  | released top _ => exact quiet (Interpreter.produced_notes (by rw [top]; exact Nat.le_succ _)) (elsewhere top rfl)
  | heard top _ => exact quiet (Interpreter.produced_notes (by rw [top]; exact Nat.le_succ _)) (elsewhere top rfl)
  | idle still =>
    have empty : self.stack = [] := still.resolve_right (not_not_intro free)
    refine quiet (Interpreter.produced_notes (Nat.le_refl _)) ?_
    simp [Moment.announced?,Moment.step?,Moment.fault?,empty]

/-- What is produced at a moment is the snapshot of the core that is announced, and the core stays as
announced. -/
theorem Moves.announces (moves : here.Moves deed next) :
    produced (here.self.notes next.self deed) = (⟨here,deed⟩ : Moment M).announced?.toList.map Core.snapshot ∧
    ∀ core, (⟨here,deed⟩ : Moment M).announced? = some core → next.self.core = core := by
  have still : deed ≠ .go → deed ≠ .stop → (⟨here,deed⟩ : Moment M).announced? = none := by
    intro other unstopped
    rw [Option.eq_none_iff_forall_ne_some]
    intro core announces
    rcases Moment.announced?_eq_some_iff.mp announces with ⟨_,commits,_⟩ | ⟨_,faults,_⟩ | ⟨stops,_⟩
    · exact other (Moment.step?_eq_some_iff.mp commits).1
    · exact other (Moment.fault?_eq_some_iff.mp faults).1
    · exact unstopped stops
  cases moves with
  | @turn self next deed waiting turn =>
    by_cases go : deed = .go
    · subst go
      cases turn with
      | go free => exact announces_tick self waiting free
    · by_cases stop : deed = .stop
      · subst stop
        cases turn with
        | stop =>
          rcases self.stop_cases with ⟨past,result⟩ | ⟨unstopped,unfailed,result⟩
          · have silent : (⟨⟨self,waiting⟩,.stop⟩ : Moment M).announced? = none := if_pos past
            rw [silent,result]
            exact ⟨Interpreter.produced_notes (Nat.le_refl _),fun _ none => by cases none⟩
          · have now : (⟨⟨self,waiting⟩,.stop⟩ : Moment M).announced? = some (self.core.close .stopped self.core.fault) :=
              if_neg (not_or.mpr ⟨unstopped,unfailed⟩)
            rw [now,result]
            refine ⟨?_,fun _ same => Option.some.inj same⟩
            simp [Interpreter.notes,Interpreter.close,Interpreter.publish,Interpreter.push]
      · rw [still go stop]
        exact ⟨turn.unproduced go stop,fun _ none => by cases none⟩
  | back => rw [still (by simp) (by simp)]; exact ⟨rfl,fun _ none => by cases none⟩
  | join => rw [still (by simp) (by simp)]; exact ⟨rfl,fun _ none => by cases none⟩

/-! ## What a run announces -/

/-- The moments that have led from one gathering to another, with the notes on what was done then. -/
inductive Annals (first : Gathering M) : List (Moment M) → List (Note M) → Gathering M → Prop where
  | here : Annals first [] [] first
  | onward {trail : List (Moment M)} {log : List (Note M)} {deed : Deed M} {here next : Gathering M} :
      Annals first trail log here → here.Moves deed next →
        Annals first (trail ++ [⟨here,deed⟩]) (log ++ here.self.notes next.self deed) next

theorem Annals.run (annals : first.Annals trail log here) : first.Trail trail here := by
  induction annals with
  | here => exact .here
  | onward _ moves ih => exact ih.onward moves

/-- The snapshots of a run are those of the cores that were announced, in the same order. -/
theorem Annals.announced (annals : first.Annals trail log here) :
    produced log = (trail.filterMap Moment.announced?).map Core.snapshot := by
  induction annals with
  | here => rfl
  | @onward trail log deed here next _ moves ih =>
    rw [produced_append,ih,moves.announces.1,List.filterMap_append,List.map_append]
    cases announces : (⟨here,deed⟩ : Moment M).announced? <;> simp [announces]

end Gathering

/-! ## What a macrostep has taken -/

/-- The same answers choose but once: of two ends, reached one after the other, the first is the only one. -/
theorem Dialogue.Leads.unique_end {Q : Type} {A : Q → Type} {α : Type} {dialogue : Dialogue Q A α} {result other : α}
    {before before' after after' : List (Sigma A)} (ends : dialogue.Leads before (.done result))
    (ends' : dialogue.Leads before' (.done other)) (same : before ++ after = before' ++ after') : other = result := by
  induction dialogue generalizing before before' with
  | done value => cases ends; cases ends'; rfl
  | ask question next ih =>
    cases ends with
    | answer further =>
      cases ends' with
      | answer further' =>
        obtain ⟨first,rest⟩ := List.cons.inj same
        cases first
        exact ih _ further further' rest

namespace Graph

/-- The answers given to the macrostep of an event have chosen a transition for it. -/
def Chooses (graph : Graph M) (state : M.State) (context : M.Context) (event : Event M)
    (given : List ((query : Query M) × query.Answer)) : Prop :=
  ∃ transition before after, given = before ++ after ∧
    (select (graph.candidates state event) context event).Leads before (.done (some transition))

theorem take_taken (graph : Graph M) (step : Step M) (transition : Transition M) (event : Event M) (trigger : String) :
    Faithful event (fun later => later.taken = true) (graph.take step transition event trigger) := by
  have entered : ∀ (step : Step M) target, step.taken = true →
      Faithful event (fun later => later.taken = true) (graph.enter step target event) := by
    intro step target taken
    unfold enter
    cases graph.node? target with
    | none => exact .pure taken
    | some node =>
      refine (runIn_faithful _ _ _ _).bind ?_
      intro context _
      exact .lift (makeService_meets node context event) fun _ _ => .pure taken
  unfold take
  cases transition.target with
  | none => exact (runIn_faithful _ _ _ _).bind fun _ _ => .pure rfl
  | some target =>
    refine (runIn_faithful _ _ _ _).bind ?_
    intro left _
    refine (runIn_faithful _ _ _ _).bind ?_
    intro passed _
    exact entered _ target rfl

theorem settle_taken (graph : Graph M) (limit : UInt64) (event : Event M) (remaining : Nat) {step : Step M}
    (taken : step.taken = true) :
    Faithful event (fun later => later.taken = true) (graph.settle limit event remaining step) := by
  induction remaining generalizing step with
  | zero =>
    unfold settle
    refine .lift (graph.selectAlways_meets step event) ?_
    intro chosen _
    cases chosen with
    | none => exact .pure taken
    | some transition => exact .throw _
  | succ remaining ih =>
    unfold settle
    refine .lift (graph.selectAlways_meets step event) ?_
    intro chosen _
    cases chosen with
    | none => exact .pure taken
    | some transition => exact (graph.take_taken step transition event _).bind fun _ taken => ih taken

/-- A step has taken something just if a transition has been chosen for its event: whatever is taken
afterwards follows upon that one. -/
theorem react_taken {limit : UInt64} {state : M.State} {context : M.Context} {event : Event M}
    {given : List ((query : Query M) × query.Answer)} {step : Step M}
    (leads : (graph.react limit state context event).run.Leads given (.done (.ok step))) :
    step.taken = true ↔ graph.Chooses state context event given := by
  unfold react at leads
  rw [ExceptT.run_bind] at leads
  obtain ⟨chosen,before,after,split,selects,further⟩ := leads.ends_of_bind
  obtain ⟨transition,asked,silent,parts,finds,lifts⟩ := Dialogue.Leads.ends_of_bind selects
  cases lifts
  rw [List.append_nil] at parts
  subst split parts
  cases transition with
  | none =>
    cases further
    constructor
    · intro taken
      cases taken
    · rintro ⟨other,_,_,same,finds'⟩
      cases finds.unique_end finds' same
  | some transition =>
    constructor
    · intro _
      exact ⟨transition,before,after,rfl,finds⟩
    · intro _
      have faithful : Faithful event (fun later : Step M => later.taken = true) _ :=
        (graph.take_taken (.unchanged state context) transition event event.label).bind
          fun _ taken => graph.settle_taken limit event limit.toNat taken
      exact Dialogue.Meets.leads faithful further step rfl

theorem begin_taken {limit : UInt64} {given : List ((query : Query M) × query.Answer)} {step : Step M}
    (leads : (graph.begin limit).run.Leads given (.done (.ok step))) : step.taken = true := by
  cases Dialogue.Meets.leads (graph.begin_faithful limit) leads step rfl with
  | stayed _ nowhere => cases nowhere
  | entered _ taken _ => exact taken

end Graph

/-! ## Which steps are committed -/

/-- A macrostep has taken something: that of a start does so anyway, and that of an event if a
transition has been chosen for the event. -/
def Frame.HasTaken (graph : Graph M) (basis : Committed M) (given : List ((query : Query M) × query.Answer)) :
    Frame M → Prop
  | .starting _ => True
  | .reacting _ _ event _ => graph.Chooses basis.state basis.context event given
  | _ => False

/-- A deed that begins macrosteps like this one: a call of start, or a drain that goes on. -/
def Frame.BegunWith (beginning : Deed M) : Frame M → Prop
  | .starting _ => ∃ clocked, beginning = .start clocked
  | _ => beginning = .go

theorem Interpreter.Begins.begunWith {self : Interpreter M} {deed : Deed M} {frame : Frame M}
    (begins : self.Begins deed frame) : frame.BegunWith deed := by
  cases begins with
  | start clocked _ => exact ⟨clocked,rfl⟩
  | take _ _ _ _ => exact rfl

theorem Frame.BegunWith.advances {beginning : Deed M} {given : List ((query : Query M) × query.Answer)}
    {frame later : Frame M} (begun : frame.BegunWith beginning) (advances : frame.Advances given later) :
    later.BegunWith beginning := by
  cases advances with
  | starting _ => exact begun
  | reacting _ => exact begun

namespace Gathering

variable {first here next : Gathering M} {deed beginning : Deed M} {deeds : List (Deed M)} {trail : List (Moment M)}
  {log : List (Note M)}

/-- As long as a macrostep is in progress it is computed from what had been committed when it began, and
nothing else is committed. -/
theorem Underway.computed (underway : first.Underway beginning deeds log here)
    (reachable : first.Reachable graph options) :
    ∃ frame, here.macrosteps = [frame] ∧ frame.BegunWith beginning ∧
      frame.ComputedFrom graph options first.self.core.committed (answers deeds) ∧
      here.self.core.committed = first.self.core.committed := by
  have soundly : ∀ {deeds log here}, first.Underway beginning deeds log here →
      Sound graph options here.self here.waiting.flatten := fun underway => underway.path.sound reachable.sound
  have uncommitted : ∀ {here next : Gathering M} {deed : Deed M}, here.Moves deed next →
      Sound graph options here.self here.waiting.flatten → next.macrosteps ≠ [] →
      next.self.core.committed = here.self.core.committed := by
    intro here next deed moves sound busy
    rcases moves.committed with kept | ⟨step,go,commits⟩
    · exact kept
    · subst go
      exact absurd (moves.commit commits sound).2 busy
  induction underway with
  | begun idle moves busy =>
    rcases moves.course reachable.sound with ⟨_,none⟩ | ⟨_,frame,begins,one⟩ | ⟨_,_,before,_,_⟩ | ⟨_,before,_,_⟩
    · exact absurd none busy
    · exact ⟨frame,one,begins.begunWith,begins.computed reachable.sound,uncommitted moves reachable.sound busy⟩
    · rw [idle] at before; cases before
    · rw [idle] at before; cases before
  | onward underway moves busy ih =>
    obtain ⟨frame,one,begun,computed,same⟩ := ih
    have sound := soundly underway
    rcases moves.course sound with ⟨none,_⟩ | ⟨none,_⟩ | ⟨old,later,now,then_,advances⟩ | ⟨_,_,none,_⟩
    · rw [one] at none; cases none
    · rw [one] at none; cases none
    · rw [one] at now
      cases now
      refine ⟨later,then_,begun.advances advances,?_,(uncommitted moves sound busy).trans same⟩
      rw [answers_append]
      exact computed.advance advances
    · exact absurd none busy

/-- A macrostep in progress began at one of the moments before. -/
theorem Trail.underway (run : first.Trail trail here) (idle : first.macrosteps = []) (busy : here.macrosteps ≠ []) :
    ∃ before start during log, trail = before ++ start :: during ∧
      start.here.Underway start.deed (during.map Moment.deed) log here := by
  induction run with
  | here => exact absurd idle busy
  | @onward trail deed here next _ moves ih =>
    by_cases still : here.macrosteps = []
    · exact ⟨trail,⟨here,deed⟩,[],_,rfl,.begun still moves busy⟩
    · obtain ⟨before,start,during,log,whole,underway⟩ := ih still
      refine ⟨before,start,during ++ [⟨here,deed⟩],log ++ here.self.notes next.self deed,by simp [whole],?_⟩
      rw [List.map_append]
      exact underway.onward moves busy

/-- Of what a macrostep in progress has been computed, wherever it began. -/
theorem Trail.macrostep (run : (fresh graph options).Trail trail here) {frame : Frame M} {below : List (Frame M)}
    (top : here.self.stack = frame :: below) (macrostep : frame.isMacrostep = true) :
    ∃ before start during log, trail = before ++ start :: during ∧
      start.here.Underway start.deed (during.map Moment.deed) log here ∧ frame.BegunWith start.deed ∧
      frame.ComputedFrom graph options start.here.self.core.committed (answers (during.map Moment.deed)) ∧
      here.self.core.committed = start.here.self.core.committed := by
  have one : here.macrosteps = [frame] := run.reachable.sound.only_macrostep top macrostep
  obtain ⟨before,start,during,log,whole,underway⟩ := run.underway rfl (by rw [one]; exact List.cons_ne_nil _ _)
  have reachable : start.here.Reachable graph options := by
    subst whole
    obtain ⟨_,earlier,_,_⟩ := run.split
    exact earlier.reachable
  obtain ⟨found,alone,begun,computed,same⟩ := underway.computed reachable
  rw [one] at alone
  cases alone
  exact ⟨before,start,during,log,whole,underway,begun,computed,same⟩

/-- A macrostep that has come to its end is committed if it is that of a start or has taken a transition,
if nothing has failed in it, and if the interpreter is still running. -/
theorem commits_iff {frame : Frame M} {below : List (Frame M)} {result : Except (Failure M.State) (Step M)}
    {basis : Committed M} {given : List ((query : Query M) × query.Answer)}
    (top : here.self.stack = frame :: below) (ended : frame.pending? = some (.done result))
    (computed : frame.ComputedFrom graph options basis given) (step : Step M) :
    (⟨here,.go⟩ : Moment M).step? = some step ↔
      frame.HasTaken graph basis given ∧ result = .ok step ∧ here.self.core.status = .running := by
  have commits : (⟨here,.go⟩ : Moment M).step? = some step ↔
      frame.result? = some step ∧ here.self.core.status = .running ∧ step.taken = true := by
    simp [Moment.step?,top,Option.filter_eq_some_iff,Core.admits]
  rw [commits]
  cases frame with
  | starting pending =>
    cases ended
    cases result with
    | error failure => simp [Frame.result?]
    | ok other =>
      have taken := Graph.begin_taken computed.2
      constructor
      · rintro ⟨same,running,_⟩
        cases same
        exact ⟨trivial,rfl,running⟩
      · rintro ⟨_,same,running⟩
        cases same
        exact ⟨rfl,running,taken⟩
  | reacting drainer firstError event pending =>
    cases ended
    cases result with
    | error failure => simp [Frame.result?]
    | ok other =>
      have taken := Graph.react_taken computed.2
      constructor
      · rintro ⟨same,running,takes⟩
        cases same
        exact ⟨taken.mp takes,rfl,running⟩
      · rintro ⟨takes,same,running⟩
        cases same
        exact ⟨rfl,running,taken.mpr takes⟩
  | draining _ _ => cases ended
  | publishing _ _ _ => cases ended

/-- What a start is going to return shows the core with which its macrostep was over. -/
theorem Trail.returned (run : (fresh graph options).Trail trail here) {snapshot : Snapshot M.State M.Context}
    (returns : snapshot ∈ here.returned) :
    ∃ before moment after next, trail = before ++ moment :: after ∧ moment.here.self.EndsStart moment.deed ∧
      moment.here.Moves moment.deed next ∧ snapshot = next.self.snapshot := by
  induction run with
  | here => cases returns
  | @onward trail deed here next _ moves ih =>
    rcases moves.returned returns with earlier | ⟨ends,now⟩
    · obtain ⟨before,moment,after,next,whole,facts⟩ := ih earlier
      exact ⟨before,moment,after ++ [⟨here,deed⟩],next,by simp [whole],facts⟩
    · exact ⟨trail,⟨here,deed⟩,[],next,rfl,ends,moves,now⟩

/-- A start that has succeeded, and during whose macrostep nobody has stopped the interpreter, returns the
snapshot with which its step was announced. -/
theorem Trail.start_returns (run : (fresh graph options).Trail trail here) {snapshot : Snapshot M.State M.Context}
    (returns : here.self.tick.2 = some (.started (.ok snapshot))) :
    ∃ before start during last after log, trail = before ++ start :: (during ++ last :: after) ∧
      (∃ clocked, start.deed = .start clocked) ∧ last.here.self.EndsStart last.deed ∧
      start.here.Underway start.deed (during.map Moment.deed) log last.here ∧
      (.stop ∉ during.map Moment.deed → ∃ core, last.announced? = some core ∧ core.snapshot = snapshot) := by
  obtain ⟨_,_,top⟩ := Interpreter.top_of_started returns
  have among : snapshot ∈ here.returned := by simp [Gathering.returned,frames,top,Frame.returned?]
  obtain ⟨earlier,⟨last,deed⟩,after,next,whole,⟨go,step,below,ends⟩,moves,shows⟩ := run.returned among
  simp only at go ends moves
  subst go shows whole
  obtain ⟨_,prior,_,_⟩ := run.split
  obtain ⟨before,⟨first,beginning⟩,during,log,parts,underway,begun,computed,_⟩ := prior.macrostep ends rfl
  simp only at begun underway
  obtain ⟨clocked,begins⟩ := begun
  subst begins
  refine ⟨before,⟨first,.start clocked⟩,during,⟨last,.go⟩,after,log,?_,⟨clocked,rfl⟩,⟨rfl,step,below,ends⟩,underway,?_⟩
  · rw [parts]
    simp
  · intro unstopped
    have reachable : first.Reachable graph options := by
      subst parts
      obtain ⟨_,initial,_,_⟩ := prior.split
      exact initial.reachable
    obtain ⟨_,_,_,⟨_,core,_⟩ | ⟨stopped,_⟩⟩ := underway.during_start reachable.sound
    · have running : last.self.core.status = .running := by rw [core]; rfl
      have commits := (commits_iff ends rfl computed step).mpr ⟨trivial,rfl,running⟩
      have announces := Moment.announced?_of_step? commits
      refine ⟨_,announces,?_⟩
      rw [Interpreter.snapshot,moves.announces.2 _ announces]
    · exact absurd stopped unstopped

/-- Where nothing faults, the fault stays as it was, and nobody makes the interpreter one that has failed. -/
theorem Moves.spares (moves : here.Moves deed next) (spared : (⟨here,deed⟩ : Moment M).fault? = none) :
    next.self.core.fault = here.self.core.fault ∧
      (next.self.core.status = .failed → here.self.core.status = .failed) := by
  have committed : ∀ {core : Core M} {step : Step M}, core.admits step = true →
      (core.commit step).fault = core.fault ∧ ((core.commit step).status = .failed → core.status = .failed) := by
    intro core step admitted
    refine ⟨(core.commit_keeps step).2,fun failed => ?_⟩
    have alive := Core.status_commit admitted
    rw [failed] at alive
    simp at alive
  cases moves with
  | @turn self next deed waiting turn =>
    cases turn with
    | start clocked =>
      rcases self.start_cases clocked with ⟨_,result⟩ | ⟨_,result⟩ | ⟨_,result⟩ <;> rw [result]
      · exact ⟨rfl,id⟩
      · exact ⟨rfl,id⟩
      · exact ⟨rfl,nofun⟩
    | send signal => rw [self.core_post]; exact ⟨rfl,id⟩
    | stop =>
      rcases self.stop_cases with ⟨_,result⟩ | ⟨_,_,result⟩ <;> rw [result]
      · exact ⟨rfl,id⟩
      · exact ⟨rfl,nofun⟩
    | answer asked given =>
      rcases Interpreter.resume_cases asked with ⟨_,_,resumed⟩ | ⟨_,_,_,_,_,resumed⟩ <;> rw [resumed] <;> exact ⟨rfl,id⟩
    | told top => rw [Interpreter.notified_eq top]; exact ⟨rfl,id⟩
    | go _ =>
      have ticks := self.ticks
      generalize self.tick.1 = next at ticks ⊢
      cases ticks with
      | startCommitted _ admitted => exact committed admitted
      | startFailed _ => exact ⟨rfl,nofun⟩
      | stepCommitted _ admitted => exact committed admitted
      | faulted top outcome running =>
        rw [Moment.fault?_eq_some_iff.mpr ⟨rfl,_,_,_,_,top,outcome,running⟩] at spared
        cases spared
      | _ => exact ⟨rfl,id⟩
    | deliver _ _ => rw [Interpreter.core_post]; exact ⟨rfl,id⟩
    | _ => exact ⟨rfl,id⟩
  | _ => exact ⟨rfl,id⟩

/-- Where a call goes on without a commit or a fault, the core stays as it was, or a start has failed. -/
theorem Moves.core_unannounced (moves : here.Moves .go next) (uncommitted : (⟨here,.go⟩ : Moment M).step? = none)
    (spared : (⟨here,.go⟩ : Moment M).fault? = none) :
    next.self.core = here.self.core ∨
      (∃ failure below, here.self.stack = .starting (.done (.error failure)) :: below) ∧
        next.self.core.status = .notStarted := by
  rw [moves.of_go]
  have ticks := here.self.ticks
  generalize here.self.tick.1 = next at ticks ⊢
  cases ticks with
  | startCommitted top admitted =>
    rw [Moment.step?_eq_some_iff.mpr ⟨rfl,admitted,_,_,top,rfl⟩] at uncommitted
    cases uncommitted
  | stepCommitted top admitted =>
    rw [Moment.step?_eq_some_iff.mpr ⟨rfl,admitted,_,_,top,rfl⟩] at uncommitted
    cases uncommitted
  | faulted top outcome running =>
    rw [Moment.fault?_eq_some_iff.mpr ⟨rfl,_,_,_,_,top,outcome,running⟩] at spared
    cases spared
  | startFailed top => exact .inr ⟨⟨_,_,top⟩,rfl⟩
  | _ => exact .inl rfl

theorem Moves.stop_of_failed (moves : here.Moves .stop next) (failed : here.self.core.status = .failed) :
    next.self.core.status = .failed := by
  cases moves with
  | @turn self _ _ _ turn =>
    cases turn with
    | stop =>
      rcases self.stop_cases with ⟨_,result⟩ | ⟨_,unfailed,_⟩
      · rw [result]; exact failed
      · exact absurd failed unfailed

/-- Exactly those deeds are announced that commit a step, that stop the interpreter and change its status
by it, or with which it becomes one that has failed. -/
theorem Moves.announced_iff (moves : here.Moves deed next) :
    (⟨here,deed⟩ : Moment M).announced? ≠ none ↔
      (∃ step, (⟨here,deed⟩ : Moment M).step? = some step) ∨
      (deed = .stop ∧ next.self.core.status ≠ here.self.core.status ∧ next.self.core.status = .stopped) ∨
      (here.self.core.status ≠ .failed ∧ next.self.core.status = .failed) := by
  constructor
  · intro announces
    obtain ⟨core,announces⟩ := Option.ne_none_iff_exists'.mp announces
    rw [moves.announces.2 core announces]
    rcases Moment.announced?_eq_some_iff.mp announces with ⟨step,commits,_⟩ | ⟨failure,faults,same⟩ | ⟨stops,unstopped,_,same⟩
    · exact .inl ⟨step,commits⟩
    · obtain ⟨_,_,_,_,_,_,_,running⟩ := Moment.fault?_eq_some_iff.mp faults
      simp only at running
      rw [same,running]
      exact .inr (.inr ⟨by simp,rfl⟩)
    · rw [same]
      exact .inr (.inl ⟨stops,Ne.symm unstopped,rfl⟩)
  · rw [Option.ne_none_iff_exists']
    rintro (⟨step,commits⟩ | ⟨stops,changes,stopped⟩ | ⟨unfailed,failed⟩)
    · exact ⟨_,Moment.announced?_of_step? commits⟩
    · subst stops
      refine ⟨_,Moment.announced?_eq_some_iff.mpr (.inr (.inr ⟨rfl,?_,?_,rfl⟩))⟩
      · exact fun before => changes (stopped.trans before.symm)
      · intro before
        rw [moves.stop_of_failed before] at stopped
        cases stopped
    · cases faults : (⟨here,deed⟩ : Moment M).fault? with
      | none => exact absurd ((moves.spares faults).2 failed) unfailed
      | some failure => exact ⟨_,Moment.announced?_of_fault? faults⟩

/-- One snapshot is produced for every change, in the order in which the changes happen: for a committed
step, for a stop that changes the status, and for the fault. Each shows the core as it is from then on. A
macrostep that has come to its end is committed just if it is that of a start or has taken a transition, has
met no error, and leaves the interpreter running. What a start returns that has succeeded, and during whose
macrostep nobody has stopped the interpreter, is what it has produced. -/
theorem one_snapshot_per_change (annals : (fresh graph options).Annals trail log here) :
    produced log = (trail.filterMap Moment.announced?).map Core.snapshot ∧
    (∀ deed next, here.Moves deed next →
      (∀ core, (⟨here,deed⟩ : Moment M).announced? = some core → next.self.core = core) ∧
      ((⟨here,deed⟩ : Moment M).announced? ≠ none ↔
        (∃ step, (⟨here,deed⟩ : Moment M).step? = some step) ∨
        (deed = .stop ∧ next.self.core.status ≠ here.self.core.status ∧ next.self.core.status = .stopped) ∨
        (here.self.core.status ≠ .failed ∧ next.self.core.status = .failed))) ∧
    (∀ frame below result, here.self.stack = frame :: below → frame.pending? = some (.done result) →
      ∃ before start during log, trail = before ++ start :: during ∧
        start.here.Underway start.deed (during.map Moment.deed) log here ∧ frame.BegunWith start.deed ∧
        ∀ step, (⟨here,.go⟩ : Moment M).step? = some step ↔
          frame.HasTaken graph start.here.self.core.committed (answers (during.map Moment.deed)) ∧
            result = .ok step ∧ here.self.core.status = .running) ∧
    ∀ snapshot, here.self.tick.2 = some (.started (.ok snapshot)) →
      ∃ before start during last after log, trail = before ++ start :: (during ++ last :: after) ∧
        (∃ clocked, start.deed = .start clocked) ∧ last.here.self.EndsStart last.deed ∧
        start.here.Underway start.deed (during.map Moment.deed) log last.here ∧
        (.stop ∉ during.map Moment.deed → ∃ core, last.announced? = some core ∧ core.snapshot = snapshot) := by
  refine ⟨annals.announced,?_,?_,fun _ => annals.run.start_returns⟩
  · intro deed next moves
    exact ⟨moves.announces.2,moves.announced_iff⟩
  · intro frame below result top ended
    have macrostep : frame.isMacrostep = true := by
      cases frame with
      | draining _ _ => cases ended
      | publishing _ _ _ => cases ended
      | _ => rfl
    obtain ⟨before,start,during,log,whole,underway,begun,computed,_⟩ := annals.run.macrostep top macrostep
    exact ⟨before,start,during,log,whole,underway,begun,fun step => commits_iff top ended computed step⟩

/-- A chart that stays where it is when it is told to go, and ignores everything else. -/
def turnstile : Graph Bench.machine where
  id := "turnstile"
  initial := .a
  context := {}
  nodes := [{ Node.empty (M := Bench.machine) .a with on := [(.go,[⟨none,[],none⟩])] }]

/-- It is started, ignores a signal, takes another one in place, and is stopped. -/
theorem turnstile_turns :
    ∃ trail log here, (fresh turnstile {}).Annals trail log here ∧
      (trail.filterMap Moment.announced?).map Core.snapshot =
        [⟨.a,{},.running⟩,⟨.a,{},.running⟩,⟨.a,{},.stopped⟩] := by
  have made : Annals (fresh turnstile {}) [] [] _ := .here
  have started := made.onward (.turn (.start true))
  have committed := started.onward (.turn (.go rfl))
  have told := committed.onward (.turn (.go rfl))
  have drained := told.onward (.turn (.go rfl))
  have sent := drained.onward (.turn (.send (Bench.Signal.mk .tick 0)))
  have taken := sent.onward (.turn (.go rfl))
  have ignored := taken.onward (.turn (.go rfl))
  have again := ignored.onward (.turn (.send (Bench.Signal.mk .go 0)))
  have reacting := again.onward (.turn (.go rfl))
  have turned := reacting.onward (.turn (.go rfl))
  have heard := turned.onward (.turn (.go rfl))
  have stopped := heard.onward (.turn .stop)
  exact ⟨_,_,_,stopped,rfl⟩

theorem turnstile_one_snapshot_per_change :
    ∃ trail log here, (fresh turnstile {}).Annals trail log here ∧
      produced log = [⟨.a,{},.running⟩,⟨.a,{},.running⟩,⟨.a,{},.stopped⟩] := by
  obtain ⟨trail,log,here,annals,announced⟩ := turnstile_turns
  refine ⟨trail,log,here,annals,?_⟩
  rw [(one_snapshot_per_change annals).1,announced]

end Gathering

end Statechart
