import Statechart.Core
import Statechart.Registry

/-!
# Interpreters: statecharts at work

An interpreter owns a core, a mailbox, its listeners and a stack of calls in progress. Whatever
takes place between two callbacks is one `tick`. When the call on top of the stack has come to a
callback, the interpreter waits: its `prompt` says which callback is meant, and the host, while it
computes the answer, may place further calls on the very same interpreter. Those go on top of the
stack and are finished before the one below goes on, so one stack holds callers that call back,
listeners that react, outcomes being delivered, and callers kept waiting in the middle of a step.

One flag, `draining`, is held by the start or the drain that is in progress. A caller that finds it
held leaves its event in the mailbox and returns.

It is assumed that callers have their turns between calls, answers and ticks only. Each of these is
indivisible, though it may change parts of an interpreter that have locks of their own. A post looks
at the status, fills the mailbox and takes the flag. A start that has told its listeners goes on to
drain with the flag in its hand. A drain finds the mailbox empty and gives the flag up. A start that
has failed resets the core, throws its mail away and gives the flag up. A stop and a fault change the
core, throw the mail away and choose the listeners to tell. What another thread could do between two
of these parts is not described.
-/
namespace Statechart

variable {M : Machine}

/-! ## Calls and what they return -/

/-- A call on an interpreter. -/
inductive Call (M : Machine) where
  /-- Starts it, from a caller that has a clock or not. -/
  | start (clocked : Bool)
  /-- Hands it a signal or the outcome of an activity. -/
  | post (event : Event M)
  | stop

/-- What a call returns. -/
inductive Reply (M : Machine) where
  | started (result : Except (Failure M.State) (Snapshot M.State M.Context))
  | posted (result : Except (Failure M.State) Unit)
  | stopped

/-! ## Calls in progress -/

/-- The steps left of a macrostep that is being computed. -/
abbrev Pending (M : Machine) : Type := Script M (Except (Failure M.State) (Step M))

/-- For whom a drain empties the mailbox. -/
inductive Drainer (M : Machine) where
  /-- The end of a start, which returns its snapshot whatever the drain meets. -/
  | start (snapshot : Snapshot M.State M.Context)
  /-- A caller that posted an event and gets the first failure. -/
  | poster

/-- What a drain returns once the mailbox is empty. -/
def Drainer.reply (firstError : Option (Failure M.State)) : Drainer M → Reply M
  | .start snapshot => .started (.ok snapshot)
  | .poster =>
    match firstError with
    | none => .posted (.ok ())
    | some failure => .posted (.error failure)

/-- What follows once every listener has been told of a snapshot. -/
inductive Sequel where
  /-- The start goes on to its drain. -/
  | startCommitted
  /-- The drain below goes on. -/
  | stepCommitted
  /-- The listeners are released and the stop returns. -/
  | stopped
  /-- The listeners are released and the drain below goes on. -/
  | faulted
  deriving DecidableEq, Repr

/-- One call in progress, or one part of a call that others may interrupt. -/
inductive Frame (M : Machine) where
  /-- A start whose macrostep is being computed. -/
  | starting (pending : Pending M)
  /-- A drain between two events. -/
  | draining (drainer : Drainer M) (firstError : Option (Failure M.State))
  /-- A drain whose macrostep is being computed. -/
  | reacting (drainer : Drainer M) (firstError : Option (Failure M.State)) (event : Event M)
    (pending : Pending M)
  /-- A snapshot being told to the listeners that are still to hear it, each with its number. -/
  | publishing (snapshot : Snapshot M.State M.Context) (unheard : List (Nat × M.Listener))
    (sequel : Sequel)

/-- A statechart at work. -/
structure Interpreter (M : Machine) where
  graph : Graph M
  options : Options
  core : Core M
  mailbox : List (Event M)
  draining : Bool
  registry : Registry M.Listener
  stack : List (Frame M)

namespace Interpreter

/-- An interpreter that has not been started. -/
def fresh (graph : Graph M) (options : Options) : Interpreter M where
  graph := graph
  options := options
  core := .fresh graph options
  mailbox := []
  draining := false
  registry := {}
  stack := []

def snapshot (self : Interpreter M) : Snapshot M.State M.Context := self.core.snapshot

/-! ## Waiting for the host -/

/-- A callback that an interpreter waits for, with the way it goes on. -/
inductive Prompt (M : Machine) where
  | query (query : Query M) (next : query.Answer → Pending M)
  | notify (listener : M.Listener) (snapshot : Snapshot M.State M.Context)

/-- The callback that the call on top of the stack has come to. -/
def prompt (self : Interpreter M) : Option (Prompt M) :=
  match self.stack with
  | .starting (.ask query next) :: _ => some (.query query next)
  | .reacting _ _ _ (.ask query next) :: _ => some (.query query next)
  | .publishing snapshot (entry :: _) _ :: _ => some (.notify entry.2 snapshot)
  | _ => none

/-- Goes on with the macrostep on top of the stack. -/
def resume (self : Interpreter M) (pending : Pending M) : Interpreter M :=
  match self.stack with
  | .starting _ :: below => { self with stack := .starting pending :: below }
  | .reacting drainer firstError event _ :: below =>
    { self with stack := .reacting drainer firstError event pending :: below }
  | _ => self

/-- Goes on to the next listener once one has been told. -/
def notified (self : Interpreter M) : Interpreter M :=
  match self.stack with
  | .publishing snapshot (_ :: unheard) sequel :: below =>
    { self with stack := .publishing snapshot unheard sequel :: below }
  | _ => self

/-! ## Entering a call -/

def push (self : Interpreter M) (frame : Frame M) : Interpreter M :=
  { self with stack := frame :: self.stack }

/-- Tells every listener registered now of a snapshot. -/
def publish (self : Interpreter M) (snapshot : Snapshot M.State M.Context) (sequel : Sequel) :
    Interpreter M :=
  self.push (.publishing snapshot self.registry.entries sequel)

/-- Ends the interpreter, throws its mail away and publishes the last snapshot. -/
def close (self : Interpreter M) (status : Status) (fault : Option (Failure M.State))
    (sequel : Sequel) : Interpreter M :=
  let core := self.core.close status fault
  { self with core, mailbox := [] }.publish core.snapshot sequel

/-- Starts an interpreter that has not been started. -/
def start (self : Interpreter M) (clocked : Bool) : Interpreter M × Option (Reply M) :=
  if self.core.status ≠ .notStarted then
    (self, some (.started (.error .alreadyStarted)))
  else if !clocked && self.graph.requiresClock then
    (self, some (.started (.error .noClock)))
  else
    let core := { self.core with status := .running, clocked }
    let begun := { self with core, draining := true }
    (begun.push (.starting (self.graph.begin self.options.maxMicrosteps).run), none)

/-- Puts an event in the mailbox of a running interpreter and, unless someone else is at it, begins
to empty the mailbox. -/
def post (self : Interpreter M) (event : Event M) : Interpreter M × Option (Reply M) :=
  match self.core.status with
  | .notStarted => (self, some (.posted (.error .notStarted)))
  | .running =>
    let received := { self with mailbox := self.mailbox ++ [event] }
    if self.draining then
      (received, some (.posted (.ok ())))
    else
      ({ received with draining := true }.push (.draining .poster none), none)
  | _ => (self, some (.posted (.ok ())))

/-- Stops an interpreter that has not been stopped and has not failed. -/
def stop (self : Interpreter M) : Interpreter M × Option (Reply M) :=
  match self.core.status with
  | .stopped => (self, some .stopped)
  | .failed => (self, some .stopped)
  | _ => (self.close .stopped self.core.fault .stopped, none)

/-- Places a call on the interpreter. Some calls return at once. -/
def enter (self : Interpreter M) : Call M → Interpreter M × Option (Reply M)
  | .start clocked => self.start clocked
  | .post event => self.post event
  | .stop => self.stop

/-! ## Going on by itself -/

/-- Commits the step of a start, if the interpreter is still running, and publishes the result; the
start then drains what came in meanwhile. -/
def finishStart (self : Interpreter M) (step : Step M) (below : List (Frame M)) :
    Interpreter M :=
  if self.core.admits step then
    let core := self.core.commit step
    { self with core, stack := .draining (.start core.snapshot) none :: below }.publish
      core.snapshot .startCommitted
  else
    { self with stack := .draining (.start self.core.snapshot) none :: below }

/-- Takes a failed start back: what it had set is undone and its mail is thrown away. -/
def abandonStart (self : Interpreter M) (failure : Failure M.State) (below : List (Frame M)) :
    Interpreter M × Option (Reply M) :=
  let core := { self.core with status := .notStarted, clocked := false }
  ({ self with core, mailbox := [], draining := false, stack := below },
    some (.started (.error failure)))

/-- Takes the next event out of the mailbox. An event that comes too late is dropped. -/
def processNext (self : Interpreter M) (drainer : Drainer M)
    (firstError : Option (Failure M.State)) (event : Event M) (rest : List (Event M))
    (below : List (Frame M)) : Interpreter M :=
  let opened := { self with mailbox := rest }
  if self.core.status = .running && self.core.accepts event then
    let pending := (self.graph.react self.options.maxMicrosteps self.core.state
      self.core.context event).run
    { opened with stack := .reacting drainer firstError event pending :: below }
  else
    opened

/-- Commits the step of an event, if it took anything and the interpreter is still running. -/
def finishStep (self : Interpreter M) (drainer : Drainer M)
    (firstError : Option (Failure M.State)) (step : Step M) (below : List (Frame M)) :
    Interpreter M :=
  let drained := { self with stack := .draining drainer firstError :: below }
  if self.core.admits step then
    let core := self.core.commit step
    { drained with core }.publish core.snapshot .stepCommitted
  else
    drained

/-- Abandons the step of an event. Nobody would repeat the outcome of an activity, so such a failure
ends the interpreter, if it is still running. -/
def abandonStep (self : Interpreter M) (drainer : Drainer M)
    (firstError : Option (Failure M.State)) (event : Event M) (failure : Failure M.State)
    (below : List (Frame M)) : Interpreter M :=
  let noted := firstError.getD failure
  let drained := { self with stack := .draining drainer (some noted) :: below }
  if event.origin.isSome && self.core.status = .running then
    drained.close .failed (some failure) .faulted
  else
    drained

/-- Goes on from one point where a host might call in to the next, and returns what the call on top
of the stack returns, once it does. Nobody else has a turn in between. -/
def tick (self : Interpreter M) : Interpreter M × Option (Reply M) :=
  match self.stack with
  | .starting (.done (.ok step)) :: below => (self.finishStart step below, none)
  | .starting (.done (.error failure)) :: below => self.abandonStart failure below
  | .draining drainer firstError :: below =>
    match self.mailbox with
    | [] => ({ self with draining := false, stack := below }, some (drainer.reply firstError))
    | event :: rest => (self.processNext drainer firstError event rest below, none)
  | .reacting drainer firstError _ (.done (.ok step)) :: below =>
    (self.finishStep drainer firstError step below, none)
  | .reacting drainer firstError event (.done (.error failure)) :: below =>
    (self.abandonStep drainer firstError event failure below, none)
  | .publishing _ [] .stopped :: below =>
    ({ self with registry := self.registry.clear, stack := below }, some .stopped)
  | .publishing _ [] .faulted :: below =>
    ({ self with registry := self.registry.clear, stack := below }, none)
  | .publishing _ [] _ :: below => ({ self with stack := below }, none)
  | _ => (self, none)

/-! ## Listeners -/

/-- Registers a listener and returns its number. -/
def subscribe (self : Interpreter M) (listener : M.Listener) : Nat × Interpreter M :=
  let (number, registry) := self.registry.add listener
  (number, { self with registry })

/-- Removes a listener, and tells whether it was still registered. -/
def unsubscribe (self : Interpreter M) (number : Nat) : Bool × Interpreter M :=
  (self.registry.holds number, { self with registry := self.registry.remove number })

/-! ## Activities -/

/-- Puts an activity that goes on in its place, or takes one away that is over. -/
def setActivity (self : Interpreter M) (place : Nat) (activity : Option (Activity M)) :
    Interpreter M :=
  let activities :=
    match activity with
    | none => self.core.activities.eraseIdx place
    | some activity => self.core.activities.set place activity
  { self with core := { self.core with activities } }

end Interpreter

end Statechart
