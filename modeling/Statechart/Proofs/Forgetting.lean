import Statechart.Proofs.Publications
import Statechart.Proofs.Walks

/-!
# Forgetting: what the limit of a history makes a difference to

An interpreter keeps the newest records of the walk that its steps have made, and nothing that it does depends
on them: under another limit, the same deeds lead to the same, but for what is remembered
(`Annals.remembering`). Put together, a history is the end of one walk to the live state (`end_of_one_walk`).
-/
namespace Statechart

variable {M : Machine} {graph : Graph M} {options : Options}

open History (Walk)

/-! ## Interpreters that differ in what they remember -/

/-- The same core but for its history. -/
def Core.remembering (core : Core M) (history : History M.State Unit) : Core M := { core with history }

theorem Core.commit_remembering (core : Core M) (history : History M.State Unit) (step : Step M) :
    (core.remembering history).commit step = (core.commit step).remembering (step.records.foldl History.record history) := by
  cases entry : step.entry with
  | none => simp [commit,remembering,entry]
  | some entered =>
    by_cases final : M.isFinal step.state = true
    · simp [commit,remembering,entry,final]
    · by_cases clocked : core.clocked = true
      · simp [commit,remembering,entry,final,clocked,origin]
      · simp [commit,remembering,entry,final,clocked]

namespace Moment

/-- What is remembered after a moment: the records of a step that is committed are added. -/
def remember (moment : Moment M) (history : History M.State Unit) : History M.State Unit :=
  (walked [moment]).foldl History.record history

variable {moment : Moment M} (history : History M.State Unit)

theorem remember_of_step? {step : Step M} (now : moment.step? = some step) :
    moment.remember history = step.records.foldl History.record history := by
  simp [remember,walked,commits,now]

theorem remember_of_none (now : moment.step? = none) : moment.remember history = history := by
  simp [remember,walked,commits,now]

end Moment

namespace Interpreter

variable (self : Interpreter M) (limit : UInt64) (history : History M.State Unit)

/-- The same interpreter but for its history and the limit of it. -/
def remembering : Interpreter M :=
  { self with options := self.options.withHistoryLimit limit, core := self.core.remembering history }

@[simp] theorem remembering_stack : (self.remembering limit history).stack = self.stack := rfl

@[simp] theorem remembering_mailbox : (self.remembering limit history).mailbox = self.mailbox := rfl

@[simp] theorem remembering_accepts (event : Event M) :
    (self.remembering limit history).core.accepts event = self.core.accepts event := rfl

@[simp] theorem remembering_admits (step : Step M) :
    (self.remembering limit history).core.admits step = self.core.admits step := rfl

@[simp] theorem remembering_commit (step : Step M) : (self.remembering limit history).core.commit step =
    (self.core.commit step).remembering (step.records.foldl History.record history) :=
  self.core.commit_remembering history step

/-- No call looks at the history. -/
theorem enter_remembering (call : Call M) :
    (self.remembering limit history).enter call = ((self.enter call).1.remembering limit history,(self.enter call).2) := by
  cases call with
  | start clocked =>
    by_cases unstarted : self.core.status = .notStarted
    · by_cases clockless : (!clocked && self.graph.requiresClock) = true
      · simp [enter,start,remembering,Core.remembering,unstarted,clockless]
      · simp [enter,start,remembering,Core.remembering,unstarted,clockless,push,Options.withHistoryLimit]
    · simp [enter,start,remembering,Core.remembering,unstarted]
  | post event =>
    cases status : self.core.status with
    | running =>
      cases held : self.draining with
      | true => simp [enter,post,remembering,Core.remembering,status,held]
      | false => simp [enter,post,remembering,Core.remembering,status,held,push]
    | _ => simp [enter,post,remembering,Core.remembering,status]
  | stop =>
    cases status : self.core.status <;>
      simp [enter,stop,remembering,Core.remembering,status,close,publish,push,Core.close,Core.snapshot]

/-- The history that there is once a step has come to its end: it is committed, or not. -/
def remembered (step : Step M) : History M.State Unit :=
  if self.core.admits step = true then step.records.foldl History.record history else history

theorem remember_of_result {self : Interpreter M} {waiting : List (List (Frame M))} {frame : Frame M}
    {below : List (Frame M)} {step : Step M} (top : self.stack = frame :: below) (result : frame.result? = some step) :
    (⟨⟨self,waiting⟩,.go⟩ : Moment M).remember history = self.remembered history step := by
  cases admitted : self.core.admits step with
  | true =>
    rw [remembered,if_pos admitted]
    exact Moment.remember_of_step? history (Moment.step?_eq_some_iff.mpr ⟨rfl,admitted,frame,below,top,result⟩)
  | false =>
    rw [remembered,if_neg (by simp [admitted])]
    exact Moment.remember_of_none history (by simp [Moment.step?,top,result,admitted,Option.filter])

theorem finishStart_remembering (step : Step M) (below : List (Frame M)) :
    (self.remembering limit history).finishStart step below =
      (self.finishStart step below).remembering limit (self.remembered history step) := by
  simp only [finishStart,remembered,remembering_admits,remembering_commit]
  cases self.core.admits step <;> rfl

theorem finishStep_remembering (drainer : Drainer M) (firstError : Option (Failure M.State)) (step : Step M)
    (below : List (Frame M)) :
    (self.remembering limit history).finishStep drainer firstError step below =
      (self.finishStep drainer firstError step below).remembering limit (self.remembered history step) := by
  simp only [finishStep,remembered,remembering_admits,remembering_commit]
  cases self.core.admits step <;> rfl

theorem processNext_remembering (drainer : Drainer M) (firstError : Option (Failure M.State)) (event : Event M)
    (rest : List (Event M)) (below : List (Frame M)) :
    (self.remembering limit history).processNext drainer firstError event rest below =
      (self.processNext drainer firstError event rest below).remembering limit history := by
  have status : (self.remembering limit history).core.status = self.core.status := rfl
  simp only [processNext,remembering_accepts,status]
  cases (decide (self.core.status = .running) && self.core.accepts event) <;> rfl

theorem abandonStep_remembering (drainer : Drainer M) (firstError : Option (Failure M.State)) (event : Event M)
    (failure : Failure M.State) (below : List (Frame M)) :
    (self.remembering limit history).abandonStep drainer firstError event failure below =
      (self.abandonStep drainer firstError event failure below).remembering limit history := by
  have status : (self.remembering limit history).core.status = self.core.status := rfl
  simp only [abandonStep,status]
  cases (event.origin.isSome && decide (self.core.status = .running)) <;> rfl

theorem tick_remembering (waiting : List (List (Frame M))) :
    (self.remembering limit history).tick =
      (self.tick.1.remembering limit ((⟨⟨self,waiting⟩,.go⟩ : Moment M).remember history),self.tick.2) := by
  -- where no step is committed, the history stays
  have same : (⟨⟨self,waiting⟩,.go⟩ : Moment M).step? = none →
      (self.remembering limit history).tick = (self.tick.1.remembering limit history,self.tick.2) →
      (self.remembering limit history).tick =
        (self.tick.1.remembering limit ((⟨⟨self,waiting⟩,.go⟩ : Moment M).remember history),self.tick.2) := by
    intro uncommitted ticks
    rw [Moment.remember_of_none history uncommitted,ticks]
  match stack : self.stack with
  | [] => exact same (by simp [Moment.step?,stack]) (by rw [tick,remembering_stack,stack,tick,stack])
  | .starting (.ask _ _) :: _ =>
    exact same (by simp [Moment.step?,stack,Frame.result?]) (by rw [tick,remembering_stack,stack,tick,stack])
  | .starting (.done (.error _)) :: _ =>
    exact same (by simp [Moment.step?,stack,Frame.result?]) (by rw [tick,remembering_stack,stack,tick,stack]; rfl)
  | .starting (.done (.ok step)) :: below =>
    rw [tick,remembering_stack,stack,tick,stack,remember_of_result history stack rfl]
    simp only [finishStart_remembering]
  | .draining drainer firstError :: below =>
    refine same (by simp [Moment.step?,stack,Frame.result?]) ?_
    rw [tick,remembering_stack,stack,tick,stack]
    simp only [remembering_mailbox]
    cases self.mailbox with
    | nil => rfl
    | cons event rest => simp only [processNext_remembering]
  | .reacting _ _ _ (.ask _ _) :: _ =>
    exact same (by simp [Moment.step?,stack,Frame.result?]) (by rw [tick,remembering_stack,stack,tick,stack])
  | .reacting drainer firstError event (.done (.ok step)) :: below =>
    rw [tick,remembering_stack,stack,tick,stack,remember_of_result history stack rfl]
    simp only [finishStep_remembering]
  | .reacting drainer firstError event (.done (.error failure)) :: below =>
    refine same (by simp [Moment.step?,stack,Frame.result?]) ?_
    rw [tick,remembering_stack,stack,tick,stack]
    simp only [abandonStep_remembering]
  | .publishing _ unheard sequel :: _ =>
    refine same (by simp [Moment.step?,stack,Frame.result?]) ?_
    rw [tick,remembering_stack,stack,tick,stack]
    cases unheard <;> cases sequel <;> rfl

theorem notes_remembering (next : Interpreter M) (later : History M.State Unit) (deed : Deed M) :
    (self.remembering limit history).notes (next.remembering limit later) deed = self.notes next deed := by
  cases deed <;> rfl

end Interpreter

/-- Whatever somebody does, it leads to the same under another limit. -/
theorem Turn.remembering {self next : Interpreter M} {deed : Deed M} (turn : Turn self deed next)
    (waiting : List (List (Frame M))) (limit : UInt64) (history : History M.State Unit) :
    Turn (self.remembering limit history) deed
      (next.remembering limit ((⟨⟨self,waiting⟩,deed⟩ : Moment M).remember history)) := by
  -- only a commit adds to what is remembered
  have still : ∀ {later : Interpreter M}, deed ≠ .go → Turn (self.remembering limit history) deed later →
      later = next.remembering limit history →
      Turn (self.remembering limit history) deed
        (next.remembering limit ((⟨⟨self,waiting⟩,deed⟩ : Moment M).remember history)) := by
    intro later other turn same
    rw [Moment.remember_of_none history (Moment.step?_eq_none other),← same]
    exact turn
  cases turn with
  | start clocked =>
    exact still (by simp) (.start clocked) (congrArg Prod.fst (self.enter_remembering limit history (.start clocked)))
  | send signal =>
    exact still (by simp) (.send signal)
      (congrArg Prod.fst (self.enter_remembering limit history (.post (.signal signal))))
  | stop => exact still (by simp) .stop (congrArg Prod.fst (self.enter_remembering limit history .stop))
  | subscribe listener => exact still (by simp) (.subscribe listener) rfl
  | unsubscribe number => exact still (by simp) (.unsubscribe number) rfl
  | @answer query sequel asked given =>
    have asked' : (self.remembering limit history).prompt = some (.query query sequel) := asked
    refine still (by simp) (.answer asked' given) ?_
    rcases Interpreter.resume_cases asked with ⟨below,top,_⟩ | ⟨drainer,firstError,event,below,top,_⟩
    · simp only [Interpreter.resume,Interpreter.remembering_stack,top]
      rfl
    · simp only [Interpreter.resume,Interpreter.remembering_stack,top]
      rfl
  | told top =>
    refine still (by simp) (.told top) ?_
    simp only [Interpreter.notified,Interpreter.remembering_stack,top]
    rfl
  | go free =>
    have same : (self.remembering limit history).tick.1 =
        self.tick.1.remembering limit ((⟨⟨self,waiting⟩,.go⟩ : Moment M).remember history) :=
      congrArg Prod.fst (self.tick_remembering limit history waiting)
    rw [← same]
    exact .go free
  | sleep found continues => exact still (by simp) (.sleep found continues) rfl
  | @deliver place activity event found ends =>
    refine still (by simp) (.deliver found ends) ?_
    exact congrArg Prod.fst ((self.setActivity place none).enter_remembering limit history (.post event))

namespace Gathering

/-- The same gathering but for what its interpreter remembers. -/
def remembering (here : Gathering M) (limit : UInt64) (history : History M.State Unit) : Gathering M :=
  ⟨here.self.remembering limit history,here.waiting⟩

variable {here next : Gathering M} {deed : Deed M} {trail : List (Moment M)} {log : List (Note M)}

theorem Moves.remembering (moves : here.Moves deed next) (limit : UInt64) (history : History M.State Unit) :
    (here.remembering limit history).Moves deed (next.remembering limit ((⟨here,deed⟩ : Moment M).remember history)) := by
  have kept : deed ≠ .go → (⟨here,deed⟩ : Moment M).remember history = history :=
    fun other => Moment.remember_of_none history (Moment.step?_eq_none other)
  cases moves with
  | turn turn => exact .turn (turn.remembering _ limit history)
  | back => rw [kept nofun]; exact .back
  | join => rw [kept nofun]; exact .join

/-- Under another limit, the same deeds lead to the same, with the same notes, but for what is remembered. -/
theorem Annals.remembering (annals : (fresh graph options).Annals trail log here) (limit : UInt64) :
    (fresh graph (options.withHistoryLimit limit)).Path (trail.map Moment.deed) log
      (here.remembering limit ((walked trail).foldl History.record (.bounded limit))) := by
  induction annals with
  | here => exact .here
  | @onward trail log deed here next _ moves ih =>
    have further := ih.onward (moves.remembering limit _)
    rw [walked_append,List.foldl_append,List.map_append,← here.self.notes_remembering limit]
    exact further

/-- The history of an interpreter is the end of one walk. Every step that is committed records the path that
its macrostep has taken from the live state: each transition with a target, once, in order, the first one under
the label of the event and those after it as eventless. All the records, of one step after another, lead from
the initial state to the live one; the newest of them are kept, as many as the limit allows, so the states
passed through, if there are any, are those of the records kept, and end in the live one. Under another limit
the same deeds are possible, with the same notes, and lead to the same but for what is remembered: whatever
calls return is the same, and the same callbacks are asked for. -/
theorem end_of_one_walk (annals : (fresh graph options).Annals trail log here) :
    (∀ moment ∈ trail, ∀ step, moment.step? = some step →
      ∃ (frame : Frame M) (first : Gathering M) (beginning : Deed M) (deeds : List (Deed M)) (log : List (Note M))
        (path : List (Leg M)),
        moment.here.macrosteps = [frame] ∧ first.Underway beginning deeds log moment.here ∧
        frame.Travels graph moment.here.self.core.committed (answers deeds) path step ∧
        step.records = frame.journal moment.here.self.core.state path ∧
        step.state = destination moment.here.self.core.state path) ∧
    Walk graph.initial (walked trail) here.self.core.state ∧
    here.self.core.history.records = History.newest (some options.historyLimit) (walked trail) ∧
    (here.self.core.history.records ≠ [] →
      here.self.core.history.path.zip here.self.core.history.path.tail =
          here.self.core.history.records.map (fun record => (record.source,record.target)) ∧
        here.self.core.history.path.getLast? = some here.self.core.state) ∧
    ∀ limit, ∃ other : Gathering M,
      (fresh graph (options.withHistoryLimit limit)).Path (trail.map Moment.deed) log other ∧
      other = here.remembering limit ⟨History.newest (some limit) (walked trail),some limit⟩ ∧
      (∀ call, (other.self.enter call).2 = (here.self.enter call).2) ∧
      other.self.tick.2 = here.self.tick.2 ∧ other.self.prompt = here.self.prompt := by
  have run := annals.run
  have records : here.self.core.history.records = History.newest (some options.historyLimit) (walked trail) := by
    rw [run.history,History.foldl_bounded]
  refine ⟨?_,run.walk,records,?_,?_⟩
  · intro moment member step now
    obtain ⟨before,after,rfl⟩ := List.append_of_mem member
    obtain ⟨_,earlier,_,_⟩ := run.split
    exact earlier.reachable.travels (Moment.step?_eq_some_iff.mp now).2
  · intro some
    obtain ⟨middle,walk⟩ := run.walk.newest (.some options.historyLimit)
    rw [← records] at walk
    exact walk.path some
  · intro limit
    have other := annals.remembering limit
    rw [History.foldl_bounded] at other
    refine ⟨_,other,rfl,?_,?_,rfl⟩
    · intro call
      simp only [Gathering.remembering,Interpreter.enter_remembering]
    · simp only [Gathering.remembering,here.self.tick_remembering limit _ here.waiting]

/-- A chart that goes round, with a way to stay where one is. -/
def carousel : Graph Bench.machine where
  id := "carousel"
  initial := .a
  context := {}
  nodes := [
    { Node.empty (M := Bench.machine) .a with on := [(.go,[⟨none,[],some .b⟩]),(.back,[⟨none,[],none⟩])] },
    { Node.empty (M := Bench.machine) .b with always := [⟨none,[],some .a⟩] }]

/-- It goes round, stays where it is and goes round again, and only three of its four records are kept. -/
theorem carousel_goes_round :
    ∃ trail log here, (fresh carousel (Options.withHistoryLimit {} 3)).Annals trail log here ∧
      walked trail = [⟨.a,.b,"Go",()⟩,⟨.b,.a,"always",()⟩,⟨.a,.b,"Go",()⟩,⟨.b,.a,"always",()⟩] ∧
      (commits trail).length = 4 ∧ here.self.core.history.records ≠ [] := by
  have made : Annals (fresh carousel (Options.withHistoryLimit {} 3)) [] [] _ := .here
  have started := made.onward (.turn (.start true))
  have committed := started.onward (.turn (.go rfl))
  have told := committed.onward (.turn (.go rfl))
  have drained := told.onward (.turn (.go rfl))
  have sent := drained.onward (.turn (.send (Bench.Signal.mk .go 0)))
  have taken := sent.onward (.turn (.go rfl))
  have gone := taken.onward (.turn (.go rfl))
  have heard := gone.onward (.turn (.go rfl))
  have back := heard.onward (.turn (.send (Bench.Signal.mk .back 0)))
  have reacting := back.onward (.turn (.go rfl))
  have stayed := reacting.onward (.turn (.go rfl))
  have noted := stayed.onward (.turn (.go rfl))
  have again := noted.onward (.turn (.send (Bench.Signal.mk .go 0)))
  have retaken := again.onward (.turn (.go rfl))
  have round := retaken.onward (.turn (.go rfl))
  exact ⟨_,_,_,round,rfl,rfl,by decide⟩

theorem carousel_end_of_one_walk :
    ∃ trail log here, (fresh carousel (Options.withHistoryLimit {} 3)).Annals trail log here ∧
      Walk .a (walked trail) here.self.core.state ∧
      here.self.core.history.records = [⟨.b,.a,"always",()⟩,⟨.a,.b,"Go",()⟩,⟨.b,.a,"always",()⟩] ∧
      here.self.core.history.path.getLast? = some here.self.core.state ∧
      ∃ other : Gathering Bench.machine,
        (fresh carousel (Options.withHistoryLimit {} 1)).Path (trail.map Moment.deed) log other ∧
        other.self.core.history.records = [⟨.b,.a,"always",()⟩] ∧ other.self.snapshot = here.self.snapshot := by
  obtain ⟨trail,log,here,annals,walk,_,some⟩ := carousel_goes_round
  obtain ⟨_,connects,records,path,others⟩ := end_of_one_walk annals
  obtain ⟨other,under,same,_⟩ := others 1
  refine ⟨trail,log,here,annals,connects,?_,(path some).2,other,under,?_,?_⟩
  · rw [records,walk]
    rfl
  · rw [same,walk]
    rfl
  · rw [same]
    rfl

end Gathering

end Statechart
