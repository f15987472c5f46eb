import Statechart.Bench.Vocabulary
import Statechart.Proofs.Entries
import Statechart.Proofs.Trails

/-!
# Activities: those of the live instance and no others

The commit with which a state instance begins to live spawns just the activities that its node
declares. Until the instance is left or the interpreter ends, only the clock touches them, and no others
are in progress (`live_activities`).
-/
namespace Statechart

variable {M : Machine} {graph : Graph M} {options : Options}

/-- What an outcome comes from. -/
inductive Source where
  | service
  | timer
  deriving DecidableEq, Repr

/-- What an activity is: a service, or a timer with its delay. -/
def Activity.duty (activity : Activity M) : Source × Option Nat :=
  match activity.job with
  | .service _ => (.service,none)
  | .timer span => (.timer,some span)

def Activity.source (activity : Activity M) : Source := activity.duty.1

/-- The activities that the node of a state declares. -/
def Graph.duties (graph : Graph M) (state : M.State) : List (Source × Option Nat) :=
  match graph.node? state with
  | none => []
  | some node =>
    (node.service.toList.map fun _ => (.service,none)) ++ (node.delay.toList.map fun delay => (.timer,some delay.span))

/-- What the clock does to the activities with a deed: it lets one of them go on or end. -/
def Deed.tend (activities : List (Activity M)) : Deed M → List (Activity M)
  | .sleep place later => activities.set place later
  | .deliver place _ => activities.eraseIdx place
  | _ => activities

/-! ## What a deed makes of the core -/

theorem Status.past_of_ended {status : Status} (past : status = .stopped ∨ status = .failed) :
    status ≠ .running ∧ status ≠ .notStarted := by
  rcases past with past | past <;> simp [past]

inductive Interpreter.Changes (self : Interpreter M) : Deed M → Core M → Prop where
  | kept {deed : Deed M} (untended : deed.tend self.core.activities = self.core.activities) :
      Changes self deed self.core
  | begun {clocked : Bool} (unstarted : self.core.status = .notStarted)
      (able : clocked = true ∨ self.graph.requiresClock = false) :
      Changes self (.start clocked) { self.core with status := .running, clocked }
  | committed {step : Step M} (commits : self.Commits step) : Changes self .go (self.core.commit step)
  | undone {failure : Failure M.State} {below : List (Frame M)}
      (top : self.stack = .starting (.done (.error failure)) :: below) :
      Changes self .go { self.core with status := .notStarted, clocked := false }
  | closed {deed : Deed M} {status : Status} {fault : Option (Failure M.State)} (stops : deed = .stop ∨ deed = .go)
      (past : status = .stopped ∨ status = .failed) : Changes self deed (self.core.close status fault)
  | slept {place : Nat} {activity later : Activity M} (found : self.core.activities[place]? = some activity)
      (continues : activity.Continues later) :
      Changes self (.sleep place later) { self.core with activities := self.core.activities.set place later }
  | ended {place : Nat} {activity : Activity M} {event : Event M}
      (found : self.core.activities[place]? = some activity) (ends : activity.EndsWith event) :
      Changes self (.deliver place event) { self.core with activities := self.core.activities.eraseIdx place }

theorem Interpreter.changes_start (self : Interpreter M) (clocked : Bool) :
    self.Changes (.start clocked) (self.start clocked).1.core := by
  rw [start]
  by_cases unstarted : self.core.status = .notStarted
  · by_cases clockless : (!clocked && self.graph.requiresClock) = true
    · rw [if_neg (not_not_intro unstarted),if_pos clockless]
      exact .kept rfl
    · rw [if_neg (not_not_intro unstarted),if_neg clockless]
      refine .begun unstarted ?_
      cases clocked with
      | true => exact .inl rfl
      | false => exact .inr (by simpa using clockless)
  · rw [if_pos unstarted]
    exact .kept rfl

theorem Turn.changes {self next : Interpreter M} {deed : Deed M} (turn : Turn self deed next) :
    self.Changes deed next.core := by
  cases turn with
  | start clocked => exact self.changes_start clocked
  | send signal => rw [self.core_post]; exact .kept rfl
  | stop =>
    rcases self.stop_cases with ⟨_,result⟩ | ⟨_,_,result⟩
    · rw [result]; exact .kept rfl
    · rw [result]; exact .closed (.inl rfl) (.inl rfl)
  | subscribe listener => exact .kept rfl
  | unsubscribe number => exact .kept rfl
  | answer asked given =>
    rcases Interpreter.resume_cases asked with ⟨_,_,resumed⟩ | ⟨_,_,_,_,_,resumed⟩ <;> rw [resumed] <;> exact .kept rfl
  | told top => rw [Interpreter.notified_eq top]; exact .kept rfl
  | go _ =>
    have ticks := self.ticks
    generalize self.tick.1 = next at ticks ⊢
    cases ticks with
    | startCommitted top admitted => exact .committed ⟨admitted,_,_,top,rfl⟩
    | startFailed top => exact .undone top
    | stepCommitted top admitted => exact .committed ⟨admitted,_,_,top,rfl⟩
    | faulted _ _ _ => exact .closed (.inr rfl) (.inr rfl)
    | _ => exact .kept rfl
  | sleep found continues => exact .slept found continues
  | deliver found ends => rw [Interpreter.core_post]; exact .ended found ends

theorem Gathering.Moves.changes {here next : Gathering M} {deed : Deed M} (moves : here.Moves deed next) :
    here.self.Changes deed next.self.core := by
  cases moves with
  | turn turn => exact turn.changes
  | back => exact .kept rfl
  | join => exact .kept rfl

/-- Unless a call goes on or somebody stops the interpreter, only the clock does anything to the core of one that is
running. -/
theorem Gathering.Moves.core_tended {here next : Gathering M} {deed : Deed M} (moves : here.Moves deed next)
    (running : here.self.core.status = .running) (still : deed ≠ .go) (unstopped : deed ≠ .stop) :
    next.self.core = { here.self.core with activities := deed.tend here.self.core.activities } := by
  have changes := moves.changes
  generalize next.self.core = core at changes ⊢
  cases changes with
  | kept untended => rw [untended]
  | begun unstarted _ =>
    rw [unstarted] at running
    cases running
  | committed _ => exact absurd rfl still
  | undone _ => exact absurd rfl still
  | closed stops _ => exact (stops.elim unstopped still).elim
  | slept _ _ => rfl
  | ended _ _ => rfl

/-- Only a start lets an interpreter run that did not. -/
theorem Interpreter.Changes.revives {self : Interpreter M} {deed : Deed M} {core : Core M}
    (changes : self.Changes deed core)
    (idle : self.core.status ≠ .running) (running : core.status = .running) :
    self.core.status = .notStarted ∧ ∃ clocked, deed = .start clocked := by
  cases changes with
  | kept _ => exact absurd running idle
  | begun unstarted _ => exact ⟨unstarted,_,rfl⟩
  | committed commits => exact absurd (Core.running_of_admits commits.1) idle
  | undone _ => cases running
  | closed _ past => exact absurd running (Status.past_of_ended past).1
  | slept _ _ => exact absurd running idle
  | ended _ _ => exact absurd running idle

/-- Only a failed start makes an interpreter one that has not been started. -/
theorem Interpreter.Changes.takes_back {self : Interpreter M} {deed : Deed M} {core : Core M}
    (changes : self.Changes deed core) (unstarted : core.status = .notStarted) :
    self.core.status = .notStarted ∨ ∃ failure below, self.stack = .starting (.done (.error failure)) :: below := by
  cases changes with
  | kept _ => exact .inl unstarted
  | begun _ _ => cases unstarted
  | committed commits =>
    rcases Core.status_commit commits.1 with status | status <;> rw [status] at unstarted <;> cases unstarted
  | undone top => exact .inr ⟨_,_,top⟩
  | closed _ past => exact absurd unstarted (Status.past_of_ended past).2
  | slept _ _ => exact .inl unstarted
  | ended _ _ => exact .inl unstarted

/-! ## The activities in progress -/

theorem Entry.Fits.duties {entry : Entry M} {state : M.State} (fits : entry.Fits graph state) (origin : Origin M) :
    (entry.activities origin).map Activity.duty = graph.duties state := by
  obtain ⟨service,delay⟩ := fits
  rw [Entry.activities,Graph.duties,delay]
  cases found : graph.node? state with
  | none =>
    have none : entry.service = none := by simpa [found] using service
    simp [none]
  | some node =>
    have services : (entry.service.toList.map fun _ => (Source.service,@none Nat)) =
        node.service.toList.map fun _ => (Source.service,none) := by
      rw [found,Option.bind_some] at service
      cases made : entry.service <;> cases form : node.service <;> simp [made,form] at service ⊢
    simpa [Function.comp_def,Activity.duty,← services] using by cases node.delay <;> rfl

theorem Entry.activities_origin {entry : Entry M} {origin : Origin M} :
    ∀ activity ∈ entry.activities origin, activity.origin = origin ∧ activity.phase = .queued := by
  intro activity member
  rcases List.mem_append.mp member with member | member
  · obtain ⟨task,_,same⟩ := List.mem_map.mp member
    rw [← same]
    exact ⟨rfl,rfl⟩
  · obtain ⟨span,_,same⟩ := List.mem_map.mp member
    rw [← same]
    exact ⟨rfl,rfl⟩

/-- A node declares at most one activity of each sort. -/
theorem Graph.duties_nodup (graph : Graph M) (state : M.State) : ((graph.duties state).map Prod.fst).Nodup := by
  rw [duties]
  cases graph.node? state with
  | none => exact List.nodup_nil
  | some node =>
    dsimp only
    cases node.service <;> cases node.delay <;> simp

/-- A chart that needs no clock declares no activities. -/
theorem Graph.duties_eq_nil (clockless : graph.requiresClock = false) (state : M.State) : graph.duties state = [] := by
  rw [duties]
  cases found : graph.node? state with
  | none => rfl
  | some node =>
    have idle : node.hasActivities = false := by
      simpa using List.any_eq_false.mp clockless node (List.mem_of_find?_eq_some found)
    simp only [Node.hasActivities,Bool.or_eq_false_iff,Option.isSome_eq_false_iff,Option.isNone_iff_eq_none] at idle
    simp [idle]

theorem Activity.Continues.same {activity later : Activity M} (continues : activity.Continues later) :
    later.origin = activity.origin ∧ later.duty = activity.duty := by
  cases continues with
  | timer => exact ⟨rfl,rfl⟩
  | service => exact ⟨rfl,rfl⟩

theorem Activity.EndsWith.origin {activity : Activity M} {event : Event M} (ends : activity.EndsWith event) :
    event.origin = some activity.origin := by
  cases ends with
  | timer => rfl
  | service _ _ _ outcome => cases outcome <;> rfl

theorem map_set_of_same {α β : Type} {f : α → β} {list : List α} {place : Nat} {old new : α}
    (found : list[place]? = some old) (same : f new = f old) : (list.set place new).map f = list.map f := by
  apply List.ext_getElem?
  intro other
  rw [List.getElem?_map,List.getElem?_map,List.getElem?_set]
  by_cases here : place = other
  · subst here
    obtain ⟨inside,there⟩ := List.getElem?_eq_some_iff.mp found
    simp [inside,there,same]
  · rw [if_neg here]

/-- What holds of the core, as far as its activities are concerned, at every moment of a run. -/
structure Core.Tended (graph : Graph M) (core : Core M) : Prop where
  idle : core.status ≠ .running → core.activities = []
  able : core.status = .running → core.clocked = true ∨ graph.requiresClock = false
  own : ∀ activity ∈ core.activities, activity.origin = core.origin
  declared : (core.activities.map Activity.duty).Sublist (graph.duties core.state)

namespace Core

variable {core : Core M} {step : Step M}

theorem Tended.fresh (graph : Graph M) (options : Options) : (fresh graph options).Tended graph := by
  refine ⟨fun _ => rfl,?_,?_,List.nil_sublist _⟩
  · intro running
    cases running
  · intro activity member
    cases member

theorem Tended.sources_nodup (tended : core.Tended graph) : (core.activities.map Activity.source).Nodup := by
  have sources := tended.declared.map Prod.fst
  rw [List.map_map] at sources
  exact sources.nodup (graph.duties_nodup _)

/-- Where activities are in progress, the interpreter is running. -/
theorem Tended.running (tended : core.Tended graph) {place : Nat} {activity : Activity M}
    (found : core.activities[place]? = some activity) : core.status = .running := by
  by_cases running : core.status = .running
  · exact running
  · rw [tended.idle running] at found
    cases found

/-- No commit changes whether there is a clock, nor the fault. -/
theorem commit_keeps (core : Core M) (step : Step M) :
    (core.commit step).clocked = core.clocked ∧ (core.commit step).fault = core.fault := by
  cases entered : step.entry with
  | none => simp [commit,entered]
  | some entry =>
    simp only [commit,entered]
    split
    · exact ⟨rfl,rfl⟩
    · split <;> exact ⟨rfl,rfl⟩

/-- Unless it ends the machine, the commit of a step that has entered a state spawns the activities of
that state, if there are any. -/
theorem activities_commit {entry : Entry M} (entered : step.entry = some entry)
    (able : core.clocked = true ∨ graph.requiresClock = false) (fits : entry.Fits graph step.state) :
    ((core.commit step).status = .done ∧ (core.commit step).activities = []) ∨
      ((core.commit step).status = core.status ∧
        (core.commit step).activities = entry.activities ⟨step.state,core.generation.next⟩) := by
  cases final : M.isFinal step.state with
  | true => exact .inl (by simp [commit,entered,final])
  | false =>
    refine .inr ?_
    cases clocked : core.clocked with
    | true => simp [commit,entered,final,clocked,origin]
    | false =>
      -- without a clock there is nothing to spawn
      have clockless : graph.requiresClock = false := by simpa [clocked] using able
      have none := fits.duties ⟨step.state,core.generation.next⟩
      rw [graph.duties_eq_nil clockless,List.map_eq_nil_iff] at none
      simp [commit,entered,final,clocked,none]

theorem Tended.commit (tended : core.Tended graph) (running : core.status = .running) {source : Option M.State}
    (stems : step.Stems graph source) (begins : source = none ∨ source = some core.state) :
    (core.commit step).Tended graph := by
  have able := tended.able running
  have clocked := (core.commit_keeps step).1
  cases stems with
  | stayed none here =>
    have stays : step.state = core.state := by
      rcases begins with nowhere | there
      · rw [nowhere] at here; cases here
      · rw [there] at here; exact (Option.some.inj here).symm
    refine ⟨?_,?_,?_,?_⟩
    · simpa [Core.commit,none] using tended.idle
    · simpa [Core.commit,none] using tended.able
    · simpa [Core.commit,none,origin,stays] using tended.own
    · simpa [Core.commit,none,stays] using tended.declared
  | entered entered _ fits =>
    have place : (core.commit step).origin = ⟨step.state,core.generation.next⟩ := by
      have follows := core.committed_commit step
      simp only [Core.committed,Committed.after,entered,Committed.mk.injEq] at follows
      rw [origin,follows.1,follows.2.2.1]
      rfl
    rcases activities_commit entered able fits with ⟨ended,none⟩ | ⟨goes,spawned⟩
    · refine ⟨fun _ => none,?_,?_,?_⟩
      · rw [ended]; intro running; cases running
      · rw [none]; intro activity member; cases member
      · rw [none]; exact List.nil_sublist _
    · refine ⟨?_,?_,?_,?_⟩
      · rw [goes]; exact fun idle => absurd running idle
      · rw [clocked]; exact fun _ => able
      · rw [spawned,place]; exact fun activity member => (Entry.activities_origin activity member).1
      · have declared : (core.commit step).activities.map Activity.duty = graph.duties (core.commit step).state := by
          rw [spawned,fits.duties]
          exact congrArg (fun origin => graph.duties (Origin.state origin)) place.symm
        exact declared ▸ List.Sublist.refl _

/-- The clock leaves origins and duties alone. -/
theorem Tended.slept (tended : core.Tended graph) {place : Nat} {activity later : Activity M}
    (found : core.activities[place]? = some activity) (continues : activity.Continues later) :
    ({ core with activities := core.activities.set place later } : Core M).Tended graph := by
  obtain ⟨origin,duty⟩ := continues.same
  have running := tended.running found
  refine ⟨fun idle => absurd running idle,tended.able,?_,?_⟩
  · intro other member
    rcases List.mem_or_eq_of_mem_set member with old | new
    · exact tended.own other old
    · rw [new,origin]
      exact tended.own activity (List.mem_of_getElem? found)
  · rw [map_set_of_same found duty]
    exact tended.declared

theorem Tended.ended (tended : core.Tended graph) (place : Nat) :
    ({ core with activities := core.activities.eraseIdx place } : Core M).Tended graph := by
  refine ⟨?_,tended.able,?_,?_⟩
  · intro idle
    simp [tended.idle idle]
  · intro activity member
    exact tended.own activity (List.mem_of_mem_eraseIdx member)
  · exact ((List.eraseIdx_sublist _ _).map _).trans tended.declared

end Core

namespace Gathering

variable {here next : Gathering M} {deed : Deed M} {trail : List (Moment M)}

theorem Reachable.changes_tended (reachable : here.Reachable graph options) (tended : here.self.core.Tended graph)
    {core : Core M} (changes : here.self.Changes deed core) : core.Tended graph := by
  have sound := reachable.sound
  cases changes with
  | kept _ => exact tended
  | begun _ able =>
    rw [sound.graph_eq] at able
    exact ⟨fun idle => absurd rfl idle,fun _ => able,tended.own,tended.declared⟩
  | committed commits =>
    have running := Core.running_of_admits commits.1
    rcases reachable.stems commits with ⟨stems,_⟩ | ⟨stems,_⟩
    · exact tended.commit running stems (.inl rfl)
    · exact tended.commit running stems (.inr rfl)
  | undone top =>
    obtain ⟨_,_,_,core⟩ := sound.starting _ (by rw [top]; exact List.mem_cons_self)
    rw [core]
    exact .fresh graph options
  | closed _ past =>
    refine ⟨fun _ => rfl,?_,?_,List.nil_sublist _⟩
    · intro running
      exact absurd running (Status.past_of_ended past).1
    · intro activity member
      cases member
  | slept found continues => exact tended.slept found continues
  | ended _ _ => exact tended.ended _

theorem Trail.tended (run : (fresh graph options).Trail trail here) : here.self.core.Tended graph := by
  induction run with
  | here => exact .fresh graph options
  | onward run moves ih => exact run.reachable.changes_tended ih moves.changes

/-! ## Before and after the first commit -/

/-- Where a running interpreter has not committed anything yet, its start is being computed, and after
the first commit no start is computed any more. -/
structure Commenced (trail : List (Moment M)) (here : Gathering M) : Prop where
  before : commits trail = [] → here.self.core.status = .running → ∃ pending, here.macrosteps = [.starting pending]
  after : commits trail ≠ [] → here.self.core.status ≠ .notStarted ∧ ∀ pending, here.macrosteps ≠ [.starting pending]

theorem Moves.starts {clocked : Bool} (moves : here.Moves (.start clocked) next)
    (sound : Sound graph options here.self here.waiting.flatten) (unstarted : here.self.core.status = .notStarted)
    (running : next.self.core.status = .running) : ∃ pending, next.macrosteps = [.starting pending] := by
  cases moves with
  | @turn self _ _ waiting turn =>
    cases turn with
    | start clocked =>
      have none := sound.no_macrostep (sound.unstarted unstarted).1
      rcases self.start_cases clocked with ⟨started,_⟩ | ⟨_,result⟩ | ⟨_,result⟩
      · exact absurd unstarted started
      · rw [result,unstarted] at running
        cases running
      · rw [result]
        exact ⟨_,congrArg (List.cons _) none⟩

/-- A start whose macrostep is over without a commit has been stopped, or has failed. -/
theorem Moves.start_over (moves : here.Moves .go next) (reachable : here.Reachable graph options)
    {result : Except (Failure M.State) (Step M)} {below : List (Frame M)}
    (top : here.self.stack = .starting (.done result) :: below)
    (uncommitted : (⟨here,.go⟩ : Moment M).step? = none) : next.self.core.status ≠ .running := by
  rw [moves.of_go]
  cases result with
  | error failure => simp [Interpreter.tick,Interpreter.abandonStart,top]
  | ok step =>
    have refused : here.self.core.admits step = false := by
      cases admitted : here.self.core.admits step with
      | false => rfl
      | true =>
        rw [Moment.step?_eq_some_iff.mpr ⟨rfl,admitted,_,_,top,rfl⟩] at uncommitted
        cases uncommitted
    -- the macrostep of a start always takes something
    have taken : step.taken = true := by
      obtain ⟨last,run⟩ := reachable.run
      have member : Frame.starting (.done (.ok step)) ∈ here.macrosteps := by
        simp [macrosteps,frames,top,Frame.isMacrostep]
      obtain ⟨_,_,_,_,_,_,_,leads⟩ := run.computed _ member
      cases Dialogue.Meets.leads (graph.begin_faithful _) leads step rfl with
      | stayed _ here => cases here
      | entered _ taken _ => exact taken
    have idle : here.self.core.status ≠ .running := by
      intro running
      simp [Core.admits,running,taken] at refused
    simpa [Interpreter.tick,Interpreter.finishStart,top,refused] using idle

theorem Commenced.onward (commenced : Commenced trail here) (reachable : here.Reachable graph options)
    (moves : here.Moves deed next) : Commenced (trail ++ [⟨here,deed⟩]) next := by
  have sound := reachable.sound
  constructor
  · intro uncommitted running
    rw [commits_append,commits_singleton,List.append_eq_nil_iff,Option.toList_eq_nil_iff] at uncommitted
    obtain ⟨earlier,now⟩ := uncommitted
    by_cases alive : here.self.core.status = .running
    · obtain ⟨pending,one⟩ := commenced.before earlier alive
      rcases moves.course sound with ⟨none,_⟩ | ⟨none,_⟩ | ⟨frame,later,first,then_,advances⟩ | ⟨frame,first,_,finishes⟩
      · rw [none] at one; cases one
      · rw [none] at one; cases one
      · rw [first] at one
        cases one
        cases advances with
        | starting leads => exact ⟨_,then_⟩
      · rw [first] at one
        cases one
        cases finishes with
        | start top => exact absurd running (moves.start_over reachable top now)
    · obtain ⟨unstarted,clocked,starts⟩ := moves.changes.revives alive running
      rw [starts] at moves
      exact moves.starts sound unstarted running
  · intro committed
    cases now : (⟨here,deed⟩ : Moment M).step? with
    | some step =>
      obtain ⟨go,commits⟩ := Moment.step?_eq_some_iff.mp now
      simp only at go commits
      constructor
      · rw [moves.core_of_commit now]
        rcases Core.status_commit commits.1 with status | status <;> rw [status] <;> simp
      · rw [go] at moves
        rw [(moves.commit commits sound).2]
        simp
    | none =>
      rw [commits_append,commits_singleton,now,Option.toList_none,List.append_nil] at committed
      obtain ⟨started,past⟩ := commenced.after committed
      constructor
      · intro unstarted
        rcases moves.changes.takes_back unstarted with before | ⟨failure,below,top⟩
        · exact started before
        · exact past (.done (.error failure)) (sound.only_macrostep top rfl)
      · intro pending one
        rcases moves.course sound with ⟨_,none⟩ | ⟨_,frame,begins,after⟩ | ⟨frame,later,first,then_,advances⟩ | ⟨_,_,none,_⟩
        · rw [none] at one; cases one
        · rw [after] at one
          cases one
          cases begins with
          | start _ unstarted => exact started unstarted
        · rw [then_] at one
          cases one
          cases advances with
          | starting leads => exact past _ first
        · rw [none] at one; cases one

theorem Trail.commenced (run : (fresh graph options).Trail trail here) : Commenced trail here := by
  induction run with
  | here =>
    constructor
    · intro _ running
      cases running
    · intro committed
      exact absurd rfl committed
  | onward run moves ih => exact ih.onward run.reachable moves

/-- Nothing has been committed before a start. -/
theorem Commenced.unstarted (commenced : Commenced trail here) (unstarted : here.self.core.status = .notStarted) :
    commits trail = [] :=
  Classical.not_not.mp fun committed => (commenced.after committed).1 unstarted

/-- While the interpreter is running and no macrostep is in progress, the start is over. -/
theorem Commenced.resting (commenced : Commenced trail here) (running : here.self.core.status = .running)
    (idle : here.macrosteps = []) : commits trail ≠ [] := by
  intro none
  obtain ⟨_,one⟩ := commenced.before none running
  rw [idle] at one
  cases one

/-! ## The live instance -/

/-- The live instance is the one that has just begun to live, or the one from before. -/
theorem Moves.origin (moves : here.Moves deed next) (reachable : here.Reachable graph options) :
    next.self.core.origin = (⟨here,deed⟩ : Moment M).birth?.getD here.self.core.origin := by
  cases now : (⟨here,deed⟩ : Moment M).step? with
  | none =>
    have same := moves.committed_of_none now
    rw [Moment.birth?_eq_none now]
    simp only [Core.committed,Committed.mk.injEq] at same
    simp [Core.origin,same]
  | some step =>
    have follows := here.self.core.committed_commit step
    rw [← moves.core_of_commit now] at follows
    simp only [Core.committed,Committed.after,Committed.mk.injEq] at follows
    obtain ⟨state,_,generation,_⟩ := follows
    cases entered : step.entry with
    | some entry => simp [Moment.birth?,now,entered,Core.origin,state,generation]
    | none =>
      -- without an entry the macrostep has ended in the state where it began
      have stays : step.state = here.self.core.state := by
        rcases reachable.stems (Moment.step?_eq_some_iff.mp now).2 with ⟨stems,_⟩ | ⟨stems,_⟩
        · cases stems with
          | stayed _ nowhere => cases nowhere
          | entered some _ _ => rw [entered] at some; cases some
        · cases stems with
          | stayed _ there => exact (Option.some.inj there).symm
          | entered some _ _ => rw [entered] at some; cases some
      simp [Moment.birth?,now,entered,Core.origin,state,generation,stays]

/-- The commit with which an instance begins to live spawns just the activities of its node, and no
other deed touches any activity, except on behalf of the clock. -/
theorem Moves.activities (moves : here.Moves deed next) (reachable : here.Reachable graph options)
    (running : next.self.core.status = .running) :
    match (⟨here,deed⟩ : Moment M).birth? with
    | some origin => next.self.core.origin = origin ∧
        next.self.core.activities.map Activity.duty = graph.duties next.self.core.state ∧
        ∀ activity ∈ next.self.core.activities, activity.phase = .queued
    | none => next.self.core.activities = deed.tend here.self.core.activities := by
  have origin := moves.origin reachable
  cases born : (⟨here,deed⟩ : Moment M).birth? with
  | some birth =>
    rw [born,Option.getD_some] at origin
    obtain ⟨step,entry,now,entered,same⟩ := Moment.birth?_eq_some_iff.mp born
    have commits := (Moment.step?_eq_some_iff.mp now).2
    have core := moves.core_of_commit now
    have able := reachable.trail.elim fun _ run => run.tended.able (Core.running_of_admits commits.1)
    have fits := reachable.fits commits entered
    have state : next.self.core.state = step.state := by
      rw [same] at origin
      exact congrArg Origin.state origin
    refine ⟨origin,?_⟩
    rcases Core.activities_commit entered able fits with ⟨ended,_⟩ | ⟨_,spawned⟩
    · rw [core,ended] at running
      cases running
    · rw [state,core,spawned]
      exact ⟨fits.duties _,fun activity member => (Entry.activities_origin activity member).2⟩
  | none =>
    have changes := moves.changes
    generalize next.self.core = core at changes running
    cases changes with
    | kept untended => exact untended.symm
    | begun _ _ => rfl
    | @committed step commits =>
      have now : (⟨here,.go⟩ : Moment M).step? = some step := Moment.step?_eq_some_iff.mpr ⟨rfl,commits⟩
      have none : step.entry = none := by simpa [Moment.birth?,now] using born
      simp [Core.commit,none,Deed.tend]
    | undone _ => cases running
    | closed _ past => exact absurd running (Status.past_of_ended past).1
    | slept _ _ => rfl
    | ended _ _ => rfl

/-- The commit with which the live instance began to live, after which no other has. -/
theorem Trail.allocated (run : (fresh graph options).Trail trail here) (running : here.self.core.status = .running)
    (committed : commits trail ≠ []) :
    ∃ before moment after step, trail = before ++ moment :: after ∧ moment.step? = some step ∧
      moment.birth? = some here.self.core.origin ∧ births after = [] ∧
      (moment.here.self.core.commit step).activities.map Activity.duty = graph.duties here.self.core.state := by
  induction run with
  | here => exact absurd rfl committed
  | @onward trail deed here next run moves ih =>
    have origin := moves.origin run.reachable
    have spawns := moves.activities run.reachable running
    cases born : (⟨here,deed⟩ : Moment M).birth? with
    | some birth =>
      rw [born,Option.getD_some] at origin
      rw [born] at spawns
      obtain ⟨step,_,now,_,_⟩ := Moment.birth?_eq_some_iff.mp born
      refine ⟨trail,⟨here,deed⟩,[],step,rfl,now,by rw [born,origin],rfl,?_⟩
      rw [← moves.core_of_commit now]
      exact spawns.2.1
    | none =>
      rw [born,Option.getD_none] at origin
      have alive : here.self.core.status = .running := by
        by_cases alive : here.self.core.status = .running
        · exact alive
        · obtain ⟨unstarted,clocked,starts⟩ := moves.changes.revives alive running
          rw [commits_append,run.commenced.unstarted unstarted,commits_singleton,starts,Moment.step?_eq_none (by simp)] at committed
          exact absurd rfl committed
      have earlier : commits trail ≠ [] := fun none => by
        -- the first commit is that of a start, and with it an instance begins to live
        obtain ⟨pending,one⟩ := run.commenced.before none alive
        rw [commits_append,none,commits_singleton,List.nil_append,Ne,Option.toList_eq_nil_iff] at committed
        obtain ⟨step,now⟩ := Option.ne_none_iff_exists'.mp committed
        have unentered : step.entry = Option.none := by simpa [Moment.birth?,now] using born
        rcases run.reachable.stems (Moment.step?_eq_some_iff.mp now).2 with ⟨stems,_⟩ | ⟨_,_,_,_,_,member⟩
        · cases stems with
          | stayed _ nowhere => cases nowhere
          | entered some _ _ => rw [unentered] at some; cases some
        · simp [one] at member
      obtain ⟨before,moment,after,step,split,now,live,last,duties⟩ := ih alive earlier
      refine ⟨before,moment,after ++ [⟨here,deed⟩],step,?_,now,?_,?_,?_⟩
      · rw [split]; simp
      · rw [live,origin]
      · rw [births_append,last,births_singleton,born]; rfl
      · rw [duties]
        exact congrArg (fun origin => graph.duties (Origin.state origin)) origin.symm

/-- At most one service and one timer are in progress, both of the live instance, and only while the
interpreter is running and has committed its first step. They are what is left of the activities with
which the instance began to live, just those that its node declares: in between nothing but the clock
has touched them. -/
theorem live_activities (run : (fresh graph options).Trail trail here) :
    (here.self.core.status ≠ .running ∨ commits trail = [] → here.self.core.activities = []) ∧
    (∀ activity ∈ here.self.core.activities, activity.origin = here.self.core.origin) ∧
    (here.self.core.activities.map Activity.duty).Sublist (graph.duties here.self.core.state) ∧
    (here.self.core.activities.map Activity.source).Nodup ∧
    (here.self.core.status = .running → commits trail ≠ [] →
      ∃ before moment after step, trail = before ++ moment :: after ∧ moment.step? = some step ∧
        moment.birth? = some here.self.core.origin ∧ births after = [] ∧
        (moment.here.self.core.commit step).activities.map Activity.duty = graph.duties here.self.core.state) ∧
    ∀ deed next, here.Moves deed next → next.self.core.status = .running →
      match (⟨here,deed⟩ : Moment M).birth? with
      | some origin => next.self.core.origin = origin ∧
          next.self.core.activities.map Activity.duty = graph.duties next.self.core.state ∧
          ∀ activity ∈ next.self.core.activities, activity.phase = .queued
      | none => next.self.core.activities = deed.tend here.self.core.activities := by
  have tended := run.tended
  refine ⟨?_,tended.own,tended.declared,tended.sources_nodup,run.allocated,?_⟩
  · rintro (idle | uncommitted)
    · exact tended.idle idle
    · by_cases running : here.self.core.status = .running
      · obtain ⟨pending,one⟩ := run.commenced.before uncommitted running
        have member := (List.mem_filter.mp (one ▸ List.mem_singleton_self (Frame.starting pending))).1
        obtain ⟨_,_,_,core⟩ := run.reachable.sound.starting pending member
        rw [core]
        rfl
      · exact tended.idle running
  · intro deed next moves running
    exact moves.activities run.reachable running

/-- A chart with a service and a delay, which begins anew whenever it is told to. -/
def kettle : Graph Bench.machine where
  id := "kettle"
  initial := .a
  context := {}
  nodes := [
    { Node.empty (M := Bench.machine) .a with
      on := [(.go,[⟨none,[],some .a⟩]),(.tick,[⟨none,[⟨"look",.effect,.gate⟩],none⟩])]
      service := some ⟨"boil",⟨"boil",none,none,none,none⟩,[],[]⟩
      delay := some ⟨5,[]⟩ }]

/-- The timer has begun, the chart has been looked at, and it is about to begin anew. -/
theorem kettle_boils :
    ∃ trail here next, (fresh kettle {}).Trail trail here ∧ here.Moves .go next ∧
      here.self.core.status = .running ∧ commits trail ≠ [] ∧ next.self.core.status = .running ∧
      here.self.core.activities =
        [⟨⟨.a,⟨1⟩⟩,.service (.instant (.ok 1)),.queued⟩,⟨⟨.a,⟨1⟩⟩,.timer 5,.asleep 5⟩] ∧
      (⟨here,.go⟩ : Moment Bench.machine).birth? = some ⟨.a,⟨2⟩⟩ := by
  have made : Trail (fresh kettle {}) [] _ := .here
  have started := made.onward (.turn (.start true))
  have filled := started.onward (.turn (.answer rfl (by exact Bench.Task.instant (.ok 1))))
  have committed := filled.onward (.turn (.go rfl))
  have slept := committed.onward (.turn (@Turn.sleep _ _ 1 _ _ rfl (.timer _ _ 5)))
  have looked := slept.onward (.turn (.send (Bench.Signal.mk .tick 0)))
  have renewed := looked.onward (.turn (.send (Bench.Signal.mk .go 0)))
  have told := renewed.onward (.turn (.go rfl))
  have taken := told.onward (.turn (.go rfl))
  have answered := taken.onward (.turn (.answer rfl (by exact Except.ok ())))
  have seen := answered.onward (.turn (.go rfl))
  have heard := seen.onward (.turn (.go rfl))
  have again := heard.onward (.turn (.go rfl))
  have refilled := again.onward (.turn (.answer rfl (by exact Bench.Task.instant (.ok 2))))
  exact ⟨_,_,_,refilled,.turn (.go rfl),rfl,List.cons_ne_nil _ _,rfl,rfl,rfl⟩

theorem kettle_live_activities :
    ∃ trail here next, (fresh kettle {}).Trail trail here ∧ here.Moves .go next ∧
      (∃ moment ∈ trail, moment.birth? = some ⟨.a,⟨1⟩⟩) ∧
      next.self.core.origin = ⟨.a,⟨2⟩⟩ ∧
      next.self.core.activities.map Activity.duty = [(.service,none),(.timer,some 5)] := by
  obtain ⟨trail,here,next,run,moves,running,committed,goes,activities,born⟩ := kettle_boils
  obtain ⟨_,own,_,_,allocated,onward⟩ := live_activities run
  obtain ⟨before,moment,after,_,split,_,live,_⟩ := allocated running committed
  have spawns := onward _ _ moves goes
  rw [born] at spawns
  obtain ⟨origin,duties,_⟩ := spawns
  refine ⟨trail,here,next,run,moves,⟨moment,by simp [split],?_⟩,origin,?_⟩
  · rw [live,← own ⟨⟨.a,⟨1⟩⟩,.timer 5,.asleep 5⟩ (by simp [activities])]
  · rw [duties,show next.self.core.state = .a from congrArg Origin.state origin]
    rfl

end Gathering

end Statechart
