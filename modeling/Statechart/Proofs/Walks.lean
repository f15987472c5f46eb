import Statechart.Proofs.AbandonedSteps
import Statechart.Proofs.Histories
import Statechart.Proofs.Macrosteps
import Statechart.Proofs.Promises

/-!
# Walks: histories that lead from state to state

Every committed step has come along a path of transitions, each chosen and taken where the ones before it
had led (`Frame.Travels`), and records just those of them that have a target. So the records of all the steps
of a run, one after another, are one walk from the initial state to the live one (`Trail.walk`).
-/
namespace Statechart

/-! ## Walks -/

namespace History

variable {S T : Type} {source middle target : S} {records more : List (Record S T)}

/-- Records that lead from one state to another, each from where the one before it has led. -/
def Walk : S → List (Record S T) → S → Prop
  | source, [], target => source = target
  | source, record :: rest, target => record.source = source ∧ Walk record.target rest target

theorem walk_append : Walk source (records ++ more) target ↔
    ∃ middle, Walk source records middle ∧ Walk middle more target := by
  induction records generalizing source with
  | nil => exact ⟨fun walk => ⟨source,rfl,walk⟩,fun ⟨middle,same,walk⟩ => same ▸ walk⟩
  | cons record rest ih => simp only [List.cons_append,Walk,ih,and_assoc,exists_and_left]

/-- With the first records forgotten, a walk still leads to the same state. -/
theorem Walk.newest (walk : Walk source records target) (limit : Option UInt64) :
    ∃ middle, Walk middle (newest limit records) target := by
  cases limit with
  | none => exact ⟨source,walk⟩
  | some limit =>
    rw [← List.take_append_drop (records.length - limit.toNat) records] at walk
    obtain ⟨middle,_,walk⟩ := walk_append.mp walk
    exact ⟨middle,walk⟩

theorem Walk.pairs (walk : Walk source records target) :
    (source :: records.map Record.target).zip (records.map Record.target) =
      records.map fun record => (record.source,record.target) := by
  induction records generalizing source with
  | nil => rfl
  | cons record rest ih =>
    obtain ⟨here,walk⟩ := walk
    rw [List.map_cons,List.zip_cons_cons,ih walk,← here]
    rfl

theorem Walk.last (walk : Walk source records target) :
    (source :: records.map Record.target).getLast? = some target := by
  induction records generalizing source with
  | nil => exact congrArg some walk
  | cons record rest ih => simpa [List.getLast?_cons_cons] using ih walk.2

/-- The states passed through, as they follow upon each other, are those of the records, and the last of
them is where the walk has led. -/
theorem Walk.path {history : History S T} (walk : Walk source history.records target) (some : history.records ≠ []) :
    history.path.zip history.path.tail = history.records.map (fun record => (record.source,record.target)) ∧
      history.path.getLast? = .some target := by
  cases records : history.records with
  | nil => exact absurd records some
  | cons record rest =>
    rw [records] at walk
    have path : history.path = record.source :: (record :: rest).map Record.target := by rw [History.path,records]
    have walk : Walk record.source (record :: rest) target := ⟨rfl,walk.2⟩
    rw [path]
    exact ⟨walk.pairs,walk.last⟩

end History

variable {M : Machine} {graph : Graph M} {options : Options}

open History (Walk)

/-! ## What a path records -/

theorem Leg.records_walk (leg : Leg M) (source : M.State) (trigger : String) :
    Walk source (leg.records source trigger) (leg.destination source) := by
  rw [records,destination]
  cases leg.taken.target with
  | none => rfl
  | some target => exact ⟨rfl,rfl⟩

theorem eventlessRecords_walk (state : M.State) (path : List (Leg M)) :
    Walk state (eventlessRecords state path) (destination state path) := by
  induction path generalizing state with
  | nil => rfl
  | cons leg rest ih => exact History.walk_append.mpr ⟨_,leg.records_walk state _,ih _⟩

/-- What a macrostep records of its path: the first leg is taken for the event, and those after it, like all
of a start, are eventless. -/
def Frame.journal (source : M.State) : Frame M → List (Leg M) → List (Record M.State Unit)
  | .reacting _ _ event _, leg :: path =>
    leg.records source event.label ++ eventlessRecords (leg.destination source) path
  | _, path => eventlessRecords source path

theorem Frame.journal_walk (frame : Frame M) (source : M.State) (path : List (Leg M)) :
    Walk source (frame.journal source path) (destination source path) := by
  match frame, path with
  | .reacting _ _ _ _, [] => exact rfl
  | .reacting _ _ event _, leg :: path =>
    exact History.walk_append.mpr ⟨_,leg.records_walk source _,eventlessRecords_walk _ path⟩
  | .starting _, path => exact eventlessRecords_walk source path
  | .draining _ _, path => exact eventlessRecords_walk source path
  | .publishing _ _ _, path => exact eventlessRecords_walk source path

/-! ## Which path a macrostep takes -/

/-- The answers have chosen a leg among candidates: those before it have been passed over. -/
structure Leg.Chosen (leg : Leg M) (candidates : List (Transition M)) (context : M.Context) (event : Event M)
    (given : List ((query : Query M) × query.Answer)) : Prop where
  split : ∃ later, candidates = leg.passed ++ leg.taken :: later
  selects : (select candidates context event).Leads given (.done (some leg.taken))

theorem Leg.exists_chosen {candidates : List (Transition M)} {context : M.Context} {event : Event M}
    {given : List ((query : Query M) × query.Answer)} {transition : Transition M}
    (selects : (select candidates context event).Leads given (.done (some transition))) :
    ∃ leg : Leg M, leg.taken = transition ∧ leg.Chosen candidates context event given := by
  have split : ∀ {candidates given}, (findEnabled id candidates context event).Leads given (.done (some transition)) →
      ∃ passed later, candidates = passed ++ transition :: later := by
    intro candidates
    induction candidates with
    | nil => intro given leads; cases leads
    | cons candidate rest ih =>
      intro given leads
      obtain ⟨passes,asked,after,_,_,further⟩ := Dialogue.Leads.ends_of_bind leads
      cases passes with
      | true => cases further; exact ⟨[],rest,rfl⟩
      | false =>
        obtain ⟨passed,later,same⟩ := ih further
        exact ⟨candidate :: passed,later,congrArg (List.cons candidate) same⟩
  obtain ⟨passed,later,same⟩ := split selects
  exact ⟨⟨passed,transition⟩,rfl,⟨later,same⟩,selects⟩

/-- A macrostep follows a path of eventless transitions: each leg is chosen where the ones before it have led
and is taken, until none may be taken any more. -/
inductive Graph.Follows (graph : Graph M) (event : Event M) :
    Step M → List (Leg M) → List ((query : Query M) × query.Answer) → Step M → Prop where
  | settled {step : Step M} {asked : List ((query : Query M) × query.Answer)}
      (none : (select (graph.eventless step.state) step.context event).Leads asked (.done none)) :
      Follows graph event step [] asked step
  | onward {step next last : Step M} {leg : Leg M} {path : List (Leg M)}
      {asked during after : List ((query : Query M) × query.Answer)}
      (chosen : leg.Chosen (graph.eventless step.state) step.context event asked)
      (takes : (graph.take step leg.taken event alwaysTrigger).run.Leads during (.done (.ok next)))
      (follows : Follows graph event next path after last) :
      Follows graph event step (leg :: path) (asked ++ (during ++ after)) last

/-- How a macrostep has come to its step: the start has entered the initial state and followed a path from
there; for an event, nothing was chosen, or a leg has been chosen for it and taken, and a path followed from
there. -/
inductive Frame.Travels (graph : Graph M) (basis : Committed M) :
    Frame M → List ((query : Query M) × query.Answer) → List (Leg M) → Step M → Prop where
  | started {next last : Step M} {path : List (Leg M)} {during after : List ((query : Query M) × query.Answer)}
      (enters : (graph.enter { Step.unchanged graph.initial graph.context with taken := true } graph.initial .init).run.Leads
        during (.done (.ok next)))
      (follows : graph.Follows .init next path after last) :
      Travels graph basis (.starting (.done (.ok last))) (during ++ after) path last
  | untaken {drainer : Drainer M} {firstError : Option (Failure M.State)} {event : Event M}
      {asked : List ((query : Query M) × query.Answer)}
      (none : (select (graph.candidates basis.state event) basis.context event).Leads asked (.done none)) :
      Travels graph basis (.reacting drainer firstError event (.done (.ok (.unchanged basis.state basis.context))))
        asked [] (.unchanged basis.state basis.context)
  | taken {drainer : Drainer M} {firstError : Option (Failure M.State)} {event : Event M} {next last : Step M}
      {leg : Leg M} {path : List (Leg M)} {asked during after : List ((query : Query M) × query.Answer)}
      (chosen : leg.Chosen (graph.candidates basis.state event) basis.context event asked)
      (takes : (graph.take (.unchanged basis.state basis.context) leg.taken event event.label).run.Leads
        during (.done (.ok next)))
      (follows : graph.Follows event next path after last) :
      Travels graph basis (.reacting drainer firstError event (.done (.ok last))) (asked ++ (during ++ after))
        (leg :: path) last

/-! ## The path of a step that is committed -/

section
variable {α β : Type} {given : List ((query : Query M) × query.Answer)}

theorem Move.leads_of_bind {move : Move M α} {sequel : α → Move M β} {last : β}
    (leads : (move >>= sequel).run.Leads given (.done (.ok last))) :
    ∃ value during after, given = during ++ after ∧ move.run.Leads during (.done (.ok value)) ∧
      (sequel value).run.Leads after (.done (.ok last)) := by
  rw [ExceptT.run_bind] at leads
  obtain ⟨result,during,after,split,ends,further⟩ := leads.ends_of_bind
  cases result with
  | ok value => exact ⟨value,during,after,split,ends,further⟩
  | error failure => cases further

theorem Move.leads_of_lift {script : Script M α} {sequel : α → Move M β} {last : β}
    (leads : (ExceptT.lift script >>= sequel).run.Leads given (.done (.ok last))) :
    ∃ value asked after, given = asked ++ after ∧ script.Leads asked (.done value) ∧
      (sequel value).run.Leads after (.done (.ok last)) := by
  obtain ⟨value,asked,after,split,ends,further⟩ := Move.leads_of_bind leads
  obtain ⟨other,before,silent,parts,within,lifts⟩ := Dialogue.Leads.ends_of_bind ends
  cases lifts
  rw [List.append_nil] at parts
  exact ⟨value,asked,after,split,parts ▸ within,further⟩

end

namespace Graph

variable {step next last : Step M} {event : Event M} {given : List ((query : Query M) × query.Answer)}

theorem enter_records (graph : Graph M) (step : Step M) (target : M.State) (event : Event M) :
    Faithful event (fun later => later.records = step.records ∧ later.state = target) (graph.enter step target event) := by
  unfold enter
  cases graph.node? target with
  | none => exact .pure ⟨rfl,rfl⟩
  | some node =>
    refine (runIn_faithful _ _ _ _).bind ?_
    intro context _
    exact .lift (makeService_meets node context event) fun _ _ => .pure ⟨rfl,rfl⟩

/-- Taking a leg records it if it has a target, and leads to its destination. -/
theorem take_records (graph : Graph M) (step : Step M) (leg : Leg M) (event : Event M) (trigger : String) :
    Faithful event (fun later => later.records = step.records ++ leg.records step.state trigger ∧
      later.state = leg.destination step.state) (graph.take step leg.taken event trigger) := by
  rw [Leg.records,Leg.destination,take]
  cases leg.taken.target with
  | none => exact (runIn_faithful _ _ _ _).bind fun _ _ => .pure ⟨(List.append_nil _).symm,rfl⟩
  | some target =>
    refine (runIn_faithful _ _ _ _).bind ?_
    intro left _
    refine (runIn_faithful _ _ _ _).bind ?_
    intro passed _
    exact graph.enter_records
      { step with context := passed, taken := true, records := step.records ++ [⟨step.state,target,trigger,()⟩] } target event

theorem selectAlways_eq (graph : Graph M) (step : Step M) (event : Event M) :
    graph.selectAlways step event = select (graph.eventless step.state) step.context event := by
  rw [selectAlways,eventless]
  cases graph.node? step.state <;> rfl

/-- Whatever settles has followed a path. -/
theorem settle_follows {limit : UInt64} {remaining : Nat}
    (leads : (graph.settle limit event remaining step).run.Leads given (.done (.ok last))) :
    ∃ path, graph.Follows event step path given last := by
  induction remaining generalizing step given with
  | zero =>
    rw [settle,graph.selectAlways_eq] at leads
    obtain ⟨chosen,asked,after,split,selects,further⟩ := Move.leads_of_lift leads
    cases chosen with
    | none =>
      cases further
      rw [List.append_nil] at split
      exact ⟨[],split ▸ .settled selects⟩
    | some transition => cases further
  | succ remaining ih =>
    rw [settle,graph.selectAlways_eq] at leads
    obtain ⟨chosen,asked,after,split,selects,further⟩ := Move.leads_of_lift leads
    cases chosen with
    | none =>
      cases further
      rw [List.append_nil] at split
      exact ⟨[],split ▸ .settled selects⟩
    | some transition =>
      obtain ⟨next,during,rest,parts,takes,settles⟩ := Move.leads_of_bind further
      obtain ⟨leg,rfl,chosen⟩ := Leg.exists_chosen selects
      obtain ⟨path,follows⟩ := ih settles
      exact ⟨leg :: path,split ▸ parts ▸ .onward chosen takes follows⟩

theorem Follows.records {path : List (Leg M)} (follows : graph.Follows event step path given last) :
    last.records = step.records ++ eventlessRecords step.state path ∧ last.state = destination step.state path := by
  induction follows with
  | settled _ => exact ⟨(List.append_nil _).symm,rfl⟩
  | @onward step next last leg path _ _ _ _ takes _ ih =>
    obtain ⟨records,state⟩ := Dialogue.Meets.leads (graph.take_records step leg event alwaysTrigger) takes _ rfl
    rw [ih.1,ih.2,records,state,eventlessRecords_cons,List.append_assoc]
    exact ⟨rfl,rfl⟩

end Graph

namespace Frame

variable {frame : Frame M} {basis : Committed M} {given : List ((query : Query M) × query.Answer)} {step : Step M}

/-- A macrostep that has come to a step has taken some path. -/
theorem ComputedFrom.travels (computed : frame.ComputedFrom graph options basis given)
    (result : frame.result? = some step) : ∃ path, frame.Travels graph basis given path step := by
  match frame, result with
  | .starting (.done (.ok _)), rfl =>
    obtain ⟨_,leads⟩ := computed
    rw [Graph.begin] at leads
    obtain ⟨next,during,after,split,enters,settles⟩ := Move.leads_of_bind leads
    obtain ⟨path,follows⟩ := Graph.settle_follows settles
    exact ⟨path,split ▸ .started enters follows⟩
  | .reacting drainer firstError event (.done (.ok _)), rfl =>
    obtain ⟨_,leads⟩ := computed
    rw [Graph.react] at leads
    obtain ⟨chosen,asked,after,split,selects,further⟩ := Move.leads_of_lift leads
    cases chosen with
    | none =>
      cases further
      rw [List.append_nil] at split
      exact ⟨[],split ▸ .untaken selects⟩
    | some transition =>
      obtain ⟨next,during,rest,parts,takes,settles⟩ := Move.leads_of_bind further
      obtain ⟨leg,rfl,chosen⟩ := Leg.exists_chosen selects
      obtain ⟨path,follows⟩ := Graph.settle_follows settles
      exact ⟨leg :: path,split ▸ parts ▸ .taken chosen takes follows⟩

/-- The records of a step are those of its path, and the step has come to where the path leads. -/
theorem Travels.records {path : List (Leg M)} (travels : frame.Travels graph basis given path step)
    (computed : frame.ComputedFrom graph options basis given) :
    step.records = frame.journal basis.state path ∧ step.state = destination basis.state path := by
  cases travels with
  | started enters follows =>
    obtain ⟨records,state⟩ := Dialogue.Meets.leads (graph.enter_records _ graph.initial .init) enters _ rfl
    rw [computed.1,follows.records.1,follows.records.2,records,state]
    exact ⟨rfl,rfl⟩
  | untaken _ => exact ⟨rfl,rfl⟩
  | @taken _ _ event next _ leg _ _ _ _ chosen takes follows =>
    obtain ⟨records,state⟩ :=
      Dialogue.Meets.leads (graph.take_records (.unchanged basis.state basis.context) leg event event.label) takes _ rfl
    rw [follows.records.1,follows.records.2,records,state]
    exact ⟨rfl,rfl⟩

end Frame

/-! ## The walk of a run -/

namespace Gathering

variable {here next : Gathering M} {deed : Deed M} {trail : List (Moment M)}

/-- A step that is committed has taken a path, from the live state, by the answers that were given since its
macrostep began. -/
theorem Reachable.travels (reachable : here.Reachable graph options) {step : Step M} (commits : here.self.Commits step) :
    ∃ (frame : Frame M) (first : Gathering M) (beginning : Deed M) (deeds : List (Deed M)) (log : List (Note M)) (path : List (Leg M)),
      here.macrosteps = [frame] ∧ first.Underway beginning deeds log here ∧
      frame.Travels graph here.self.core.committed (answers deeds) path step ∧
      step.records = frame.journal here.self.core.state path ∧ step.state = destination here.self.core.state path := by
  obtain ⟨last,run⟩ := reachable.run
  obtain ⟨frame,one,result⟩ := run.result commits
  have member : frame ∈ here.macrosteps := by rw [one]; exact List.mem_singleton_self frame
  obtain ⟨first,beginning,deeds,log,_,underway,computed⟩ := run.computed frame member
  rw [← run.committed] at computed
  obtain ⟨path,travels⟩ := computed.travels result
  exact ⟨frame,first,beginning,deeds,log,path,one,underway,travels,travels.records computed⟩

/-- The records of all steps lead from the initial state to the live one. -/
theorem Trail.walk (run : (fresh graph options).Trail trail here) :
    Walk graph.initial (walked trail) here.self.core.state := by
  induction run with
  | here => rfl
  | @onward trail deed here next run moves ih =>
    rw [walked_append]
    refine History.walk_append.mpr ⟨_,ih,?_⟩
    cases now : (⟨here,deed⟩ : Moment M).step? with
    | none =>
      have same : next.self.core.state = here.self.core.state := congrArg Committed.state (moves.committed_of_none now)
      simp [walked,commits_singleton,now,Walk,same]
    | some step =>
      obtain ⟨frame,_,_,_,_,path,_,_,_,records,state⟩ := run.reachable.travels (Moment.step?_eq_some_iff.mp now).2
      have walk := frame.journal_walk here.self.core.state path
      rw [← records,← state,← (moves.shows now).1] at walk
      simpa [walked,commits_singleton,now] using walk

end Gathering

end Statechart
