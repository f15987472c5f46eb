import Statechart.Proofs.Fuel

/-!
# Solitude: one interpreter, and callbacks that call nobody

Where a site has one interpreter and its callbacks only answer and listen, every call runs from its
entry to its return without a break. So what a call on an interpreter at rest comes to can be computed:
its script is answered from the environment (`Dialogue.run`), the step is committed, the listeners hear of
it, and the interpreter is at rest again (`Quiet.begins`, `Quiet.reacts`, `Quiet.stops`).
-/
namespace Statechart

variable {M : Machine} {Env : Type}

/-- An interpreter on which no call is in progress. -/
def Interpreter.resting (graph : Graph M) (options : Options) (core : Core M) (registry : Registry M.Listener) :
    Interpreter M where
  graph := graph
  options := options
  core := core
  mailbox := []
  draining := false
  registry := registry
  stack := []

/-- A site with one interpreter. -/
def Site.alone (env : Env) (now : Nat) (self : Interpreter M) : Site M Env where
  env := env
  now := now
  interpreters := [(0,self)]
  current := some 0
  next := 1

/-- Callbacks that call nobody: they answer from the environment and change it, as long as it is calm. -/
structure Host.Quiet (host : Host M Env) (calm : Env → Prop) (answers : (query : Query M) → Env → query.Answer × Env)
    (hears : M.Listener → Snapshot M.State M.Context → Env → Env) : Prop where
  answer : ∀ (clocked : Bool) (query : Query M) (site : Site M Env), calm site.env →
    Site.Follows host (host.answer clocked query) site (answers query site.env).1
      { site with env := (answers query site.env).2 }
  notify : ∀ (clocked : Bool) (listener : M.Listener) (snapshot : Snapshot M.State M.Context) (site : Site M Env),
    calm site.env → Site.Follows host (host.notify clocked listener snapshot) site ()
      { site with env := hears listener snapshot site.env }
  calm_answers : ∀ (query : Query M) {env : Env}, calm env → calm (answers query env).2
  calm_hears : ∀ (listener : M.Listener) (snapshot : Snapshot M.State M.Context) {env : Env}, calm env →
    calm (hears listener snapshot env)

/-- The environment once every listener of a registry has heard of a snapshot. -/
def everyoneHears (hears : M.Listener → Snapshot M.State M.Context → Env → Env) (snapshot : Snapshot M.State M.Context)
    (entries : List (Nat × M.Listener)) (env : Env) : Env :=
  entries.foldl (fun env entry => hears entry.2 snapshot env) env

namespace Site

/-! ## One interpreter at a site -/

section

variable (env : Env) (now : Nat) (self : Interpreter M)

@[simp] theorem interpreter?_alone : (alone env now self).interpreter? 0 = some self := rfl

@[simp] theorem setActivity_alone (place : Nat) (activity : Option (Activity M)) :
    (alone env now self).setActivity 0 place activity = alone env now (self.setActivity place activity) := rfl

end

section

variable {env : Env} {now : Nat} {self : Interpreter M} {origin : Origin M} {job : Job M} {due : Nat}

/-- Without activities nothing is ready, and nothing is due. -/
theorem firstDue?_idle (idle : self.core.activities = []) : (alone env now self).firstDue? = none := by
  simp [alone,firstDue?,asleep,idle]

theorem ready?_idle (idle : self.core.activities = []) : (alone env now self).ready? = none := by
  have unqueued : (alone env now self).queued? = none := by simp [alone,queued?,idle]
  simp only [ready?,unqueued,firstDue?_idle idle]

theorem ready?_queued (sole : self.core.activities = [⟨origin,job,.queued⟩]) :
    (alone env now self).ready? = some (0,0,⟨origin,job,.queued⟩) := by
  have queued : (alone env now self).queued? = some (0,0,⟨origin,job,.queued⟩) := by
    simp [alone,queued?,sole,Activity.isQueued]
  simp only [ready?,queued]

theorem firstDue?_asleep (sole : self.core.activities = [⟨origin,job,.asleep due⟩]) :
    (alone env now self).firstDue? = some (due,0,0,⟨origin,job,.asleep due⟩) := by
  simp [alone,firstDue?,asleep,sole,Activity.due?]

theorem ready?_asleep (sole : self.core.activities = [⟨origin,job,.asleep due⟩]) :
    (alone env now self).ready? = if due ≤ now then some (0,0,⟨origin,job,.asleep due⟩) else none := by
  have unqueued : (alone env now self).queued? = none := by simp [alone,queued?,sole,Activity.isQueued]
  simp only [ready?,unqueued,firstDue?_asleep sole]
  rfl

end

variable {host : Host M Env} {env : Env} {now : Nat} {clocked : Bool} {self next : Interpreter M} {call : Call M}
  {reply : Reply M} {after : Site M Env}

theorem Attends.onward_alone (free : self.prompt = none) (goes : self.tick = (next,none))
    (attended : Attends host clocked 0 (alone env now next) reply after) :
    Attends host clocked 0 (alone env now self) reply after :=
  .onward (interpreter?_alone env now self) free goes attended

theorem Attends.returned_alone (free : self.prompt = none) (goes : self.tick = (next,some reply)) :
    Attends host clocked 0 (alone env now self) reply (alone env now next) :=
  .returned (interpreter?_alone env now self) free goes

theorem Places.alone_at_once (entered : self.enter call = (next,some reply)) :
    Places host clocked call 0 (alone env now self) reply (alone env now next) :=
  .at_once (interpreter?_alone env now self) entered

theorem Places.alone_attended (entered : self.enter call = (next,none))
    (attended : Attends host clocked 0 (alone env now next) reply after) :
    Places host clocked call 0 (alone env now self) reply after :=
  .attended (interpreter?_alone env now self) entered attended

end Site

/-! ## Calls from their entry to their return -/

/-- Frames in which a macrostep is being computed. -/
inductive Computing : (Pending M → Frame M) → Prop where
  | starting : Computing .starting
  | reacting (drainer : Drainer M) (firstError : Option (Failure M.State)) (event : Event M) :
      Computing (.reacting drainer firstError event)

namespace Host.Quiet

open Site

variable {host : Host M Env} {calm : Env → Prop} {answers : (query : Query M) → Env → query.Answer × Env}
  {hears : M.Listener → Snapshot M.State M.Context → Env → Env} {env later : Env} {now : Nat} {clocked : Bool}
  {graph : Graph M} {options : Options} {core : Core M} {mailbox : List (Event M)} {draining : Bool}
  {registry : Registry M.Listener} {below : List (Frame M)} {reply : Reply M} {after : Site M Env}

theorem calm_run {α : Type} (quiet : host.Quiet calm answers hears) (script : Script M α) (peace : calm env) :
    calm (script.run answers env).2 := by
  induction script generalizing env with
  | done result => exact peace
  | ask query next ih => exact ih _ (quiet.calm_answers query peace)

/-- A macrostep is computed to its end. -/
theorem computes (quiet : host.Quiet calm answers hears) {frame : Pending M → Frame M} (computing : Computing frame)
    (pending : Pending M) (peace : calm env)
    (attended : Attends host clocked 0 (alone (pending.run answers env).2 now
      ⟨graph,options,core,mailbox,draining,registry,frame (.done (pending.run answers env).1) :: below⟩) reply after) :
    Attends host clocked 0 (alone env now ⟨graph,options,core,mailbox,draining,registry,frame pending :: below⟩) reply
      after := by
  induction pending generalizing env with
  | done result => exact attended
  | ask query next ih =>
    have further := ih _ (quiet.calm_answers query peace) attended
    have answered := quiet.answer clocked query
      (alone env now ⟨graph,options,core,mailbox,draining,registry,frame (.ask query next) :: below⟩) peace
    cases computing with
    | starting => exact .asked rfl rfl answered rfl further
    | reacting drainer firstError event => exact .asked rfl rfl answered rfl further

/-- Every listener is told. -/
theorem tells (quiet : host.Quiet calm answers hears) {snapshot : Snapshot M.State M.Context}
    {entries : List (Nat × M.Listener)} {sequel : Sequel} (peace : calm env)
    (attended : Attends host clocked 0 (alone (everyoneHears hears snapshot entries env) now
      ⟨graph,options,core,mailbox,draining,registry,.publishing snapshot [] sequel :: below⟩) reply after) :
    Attends host clocked 0 (alone env now
      ⟨graph,options,core,mailbox,draining,registry,.publishing snapshot entries sequel :: below⟩) reply after := by
  induction entries generalizing env with
  | nil => exact attended
  | cons entry rest ih =>
    have further := ih (quiet.calm_hears entry.2 snapshot peace) attended
    exact .told rfl rfl (quiet.notify clocked entry.2 snapshot _ peace) rfl further

/-- Once a step has been committed and published, the drain below goes on and finds nothing. -/
theorem publishes (quiet : host.Quiet calm answers hears) {sequel : Sequel} {drainer : Drainer M} (peace : calm env)
    (onward : sequel = .startCommitted ∨ sequel = .stepCommitted) :
    Attends host clocked 0 (alone env now ⟨graph,options,core,[],true,registry,
        [.publishing core.snapshot registry.entries sequel,.draining drainer none]⟩) (drainer.reply none)
      (alone (everyoneHears hears core.snapshot registry.entries env) now (.resting graph options core registry)) := by
  refine quiet.tells peace ?_
  rcases onward with same | same
  · subst same
    exact .onward_alone rfl rfl (.returned_alone rfl rfl)
  · subst same
    exact .onward_alone rfl rfl (.returned_alone rfl rfl)

variable {step : Step M} {event : Event M}

/-- An event comes to its macrostep. -/
theorem reacting (quiet : host.Quiet calm answers hears) (peace : calm env) (running : core.status = .running)
    (accepted : core.accepts event = true)
    (computed : (graph.react options.maxMicrosteps core.state core.context event).run.run answers env = (.ok step,later))
    (attended : Attends host clocked 0 (alone later now
      ⟨graph,options,core,[],true,registry,[.reacting .poster none event (.done (.ok step))]⟩) reply after) :
    Places host clocked (.post event) 0 (alone env now (.resting graph options core registry)) reply after := by
  have entered : (Interpreter.resting graph options core registry).enter (.post event) =
      (⟨graph,options,core,[event],true,registry,[.draining .poster none]⟩,none) := by
    simp only [Interpreter.enter,Interpreter.post,Interpreter.resting,running]
    rfl
  have opened : (⟨graph,options,core,[event],true,registry,[.draining .poster none]⟩ : Interpreter M).tick =
      (⟨graph,options,core,[],true,registry,[.reacting .poster none event
        (graph.react options.maxMicrosteps core.state core.context event).run]⟩,none) := by
    simp only [Interpreter.tick,Interpreter.processNext,running,accepted]
    rfl
  refine .alone_attended entered (.onward_alone rfl opened (quiet.computes (.reacting _ _ _) _ peace ?_))
  rw [computed]
  exact attended

/-- An event on which a transition is taken. -/
theorem reacts (quiet : host.Quiet calm answers hears) (peace : calm env) (running : core.status = .running)
    (accepted : core.accepts event = true)
    (computed : (graph.react options.maxMicrosteps core.state core.context event).run.run answers env = (.ok step,later))
    (taken : step.taken = true) :
    Places host clocked (.post event) 0 (alone env now (.resting graph options core registry)) (.posted (.ok ()))
      (alone (everyoneHears hears (core.commit step).snapshot registry.entries later) now
        (.resting graph options (core.commit step) registry)) := by
  have calmer : calm later := by
    have run := quiet.calm_run (graph.react options.maxMicrosteps core.state core.context event).run peace
    rwa [computed] at run
  have finished : (⟨graph,options,core,[],true,registry,[.reacting .poster none event (.done (.ok step))]⟩ :
      Interpreter M).tick = (⟨graph,options,core.commit step,[],true,registry,
        [.publishing (core.commit step).snapshot registry.entries .stepCommitted,.draining .poster none]⟩,none) := by
    simp only [Interpreter.tick,Interpreter.finishStep,Core.admits,running,taken]
    rfl
  exact quiet.reacting peace running accepted computed (.onward_alone rfl finished (quiet.publishes calmer (.inr rfl)))

/-- An event on which nothing is taken. -/
theorem idles (quiet : host.Quiet calm answers hears) (peace : calm env) (running : core.status = .running)
    (accepted : core.accepts event = true)
    (computed : (graph.react options.maxMicrosteps core.state core.context event).run.run answers env = (.ok step,later))
    (untaken : step.taken = false) :
    Places host clocked (.post event) 0 (alone env now (.resting graph options core registry)) (.posted (.ok ()))
      (alone later now (.resting graph options core registry)) := by
  have finished : (⟨graph,options,core,[],true,registry,[.reacting .poster none event (.done (.ok step))]⟩ :
      Interpreter M).tick = (⟨graph,options,core,[],true,registry,[.draining .poster none]⟩,none) := by
    simp only [Interpreter.tick,Interpreter.finishStep,Core.admits,untaken,Bool.and_false]
    rfl
  exact quiet.reacting peace running accepted computed (.onward_alone rfl finished (.returned_alone rfl rfl))

/-- A start from a caller that has a clock. -/
theorem begins (quiet : host.Quiet calm answers hears) (peace : calm env) (unstarted : core.status = .notStarted)
    (computed : (graph.begin options.maxMicrosteps).run.run answers env = (.ok step,later)) (taken : step.taken = true) :
    Places host clocked (.start true) 0 (alone env now (.resting graph options core registry))
      (.started (.ok ({ core with status := .running, clocked := true }.commit step).snapshot))
      (alone (everyoneHears hears ({ core with status := .running, clocked := true }.commit step).snapshot
          registry.entries later) now
        (.resting graph options ({ core with status := .running, clocked := true }.commit step) registry)) := by
  have calmer : calm later := by
    have run := quiet.calm_run (graph.begin options.maxMicrosteps).run peace
    rwa [computed] at run
  have entered : (Interpreter.resting graph options core registry).enter (.start true) =
      (⟨graph,options,{ core with status := .running, clocked := true },[],true,registry,
        [.starting (graph.begin options.maxMicrosteps).run]⟩,none) := by
    simp only [Interpreter.enter,Interpreter.start,Interpreter.resting,unstarted]
    rfl
  have running : { core with status := .running, clocked := true }.status = .running := rfl
  generalize { core with status := .running, clocked := true } = begun at entered running ⊢
  have finished : (⟨graph,options,begun,[],true,registry,[.starting (.done (.ok step))]⟩ : Interpreter M).tick =
      (⟨graph,options,begun.commit step,[],true,registry,
        [.publishing (begun.commit step).snapshot registry.entries .startCommitted,
          .draining (.start (begun.commit step).snapshot) none]⟩,none) := by
    simp only [Interpreter.tick,Interpreter.finishStart,Core.admits,running,taken]
    rfl
  refine .alone_attended entered (quiet.computes .starting _ peace ?_)
  rw [computed]
  exact .onward_alone rfl finished (quiet.publishes calmer (.inl rfl))

/-- A stop of what has not been stopped and has not failed. -/
theorem stops (quiet : host.Quiet calm answers hears) (peace : calm env) (unstopped : core.status ≠ .stopped)
    (sound : core.status ≠ .failed) :
    Places host clocked .stop 0 (alone env now (.resting graph options core registry)) .stopped
      (alone (everyoneHears hears (core.close .stopped core.fault).snapshot registry.entries env) now
        (.resting graph options (core.close .stopped core.fault) registry.clear)) := by
  have entered : (Interpreter.resting graph options core registry).enter .stop =
      (⟨graph,options,core.close .stopped core.fault,[],false,registry,
        [.publishing (core.close .stopped core.fault).snapshot registry.entries .stopped]⟩,none) := by
    simp only [Interpreter.enter,Interpreter.stop,Interpreter.resting]
    rfl
  exact .alone_attended entered (quiet.tells peace (.returned_alone rfl rfl))

end Host.Quiet

end Statechart
