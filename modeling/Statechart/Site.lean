import Statechart.Interpreter

/-!
# Sites: interpreters, their host and a clock

A site is a place where interpreters live: an environment that callbacks share, a clock that moves
only when it is told to, and the interpreters made so far, one of which is the current one. What
callbacks and callers do is a plan, a dialogue whose questions are demands on the site; calls made
in a plan go to the current interpreter.

An interpreter that is replaced while a caller is in the middle of one of its steps lives on until
that caller is done with it, and its activities with it.

Plans can go on for ever, so everything here runs on fuel and gives up without it.
-/
namespace Statechart

variable {M : Machine} {Env α : Type}

/-- A listener's place: the interpreter it registered at and the number it got. -/
structure Subscription where
  interpreter : Nat
  number : Nat
  deriving DecidableEq, Repr

/-- What a plan may ask of a site. -/
inductive Demand (M : Machine) (Env : Type) where
  /-- The environment. -/
  | read
  /-- Another environment from now on. -/
  | write (env : Env)
  /-- A call on the current interpreter, from a caller that has a clock or not. -/
  | call (clocked : Bool) (call : Call M)
  /-- The current interpreter as it is now. -/
  | look
  /-- A listener for the current interpreter. -/
  | subscribe (listener : M.Listener)
  /-- The end of a subscription, at whatever interpreter. -/
  | unsubscribe (subscription : Subscription)
  /-- All that is ready at this time. -/
  | settle
  /-- The passing of time, with all that is due on the way. -/
  | elapse (span : Nat)
  /-- Another current interpreter, or none. -/
  | replace (interpreter : Option (Interpreter M))

/-- What a site answers. Calls and looks come to nothing where there is no current interpreter. -/
def Demand.Answer : Demand M Env → Type
  | .read => Env
  | .write _ => Unit
  | .call _ _ => Option (Reply M)
  | .look => Option (Interpreter M)
  | .subscribe _ => Option Subscription
  | .unsubscribe _ => Bool
  | .settle => Unit
  | .elapse _ => Unit
  | .replace _ => Unit

/-- What a caller or a callback does. -/
abbrev Plan (M : Machine) (Env : Type) : Type → Type :=
  Dialogue (Demand M Env) Demand.Answer

/-- The meaning of callbacks and tasks. A callback is told whether the caller on whose behalf it
runs has a clock. -/
structure Host (M : Machine) (Env : Type) where
  answer : (clocked : Bool) → (query : Query M) → Plan M Env query.Answer
  notify : (clocked : Bool) → M.Listener → Snapshot M.State M.Context → Plan M Env Unit
  proceed : M.Task → Env → Progress M × Env

/-- The plan of a script: the host's callbacks, one after another. -/
def Host.enact (host : Host M Env) (clocked : Bool) : Script M α → Plan M Env α
  | .done result => .done result
  | .ask query next => host.answer clocked query >>= fun answer => host.enact clocked (next answer)

/-- Interpreters with their environment and their clock, oldest first. -/
structure Site (M : Machine) (Env : Type) where
  env : Env
  now : Nat := 0
  interpreters : List (Nat × Interpreter M) := []
  current : Option Nat := none
  next : Nat := 0

namespace Site

/-! ## The interpreters of a site -/

def interpreter? (site : Site M Env) (number : Nat) : Option (Interpreter M) :=
  (site.interpreters.find? fun entry => entry.1 = number).map Prod.snd

def current? (site : Site M Env) : Option (Interpreter M) :=
  site.current.bind site.interpreter?

/-- Replaces the interpreter of a number by a later state of it. -/
def update (site : Site M Env) (number : Nat) (interpreter : Interpreter M) : Site M Env :=
  { site with
    interpreters := site.interpreters.map fun entry =>
      if entry.1 = number then (number, interpreter) else entry }

/-- Forgets the interpreters that are neither current nor in the middle of a call. -/
def sweep (site : Site M Env) : Site M Env :=
  { site with
    interpreters := site.interpreters.filter fun entry =>
      some entry.1 = site.current || !entry.2.stack.isEmpty }

/-- Makes an interpreter the current one, or leaves the site without one. -/
def replace (site : Site M Env) (interpreter : Option (Interpreter M)) : Site M Env :=
  match interpreter with
  | none => { site with current := none }.sweep
  | some interpreter =>
    { site with
      interpreters := site.interpreters ++ [(site.next, interpreter)]
      current := some site.next
      next := site.next + 1 }.sweep

/-! ## What the clock does next -/

/-- The first activity in the queue: whose it is, its place and the activity. -/
def queued? (site : Site M Env) : Option (Nat × Nat × Activity M) :=
  site.interpreters.findSome? fun entry =>
    (entry.2.core.activities.zipIdx.find? fun activity => activity.1.isQueued).map fun found =>
      (entry.1, found.2, found.1)

/-- The sleeping activities, oldest first, with the time each goes on. -/
def asleep (site : Site M Env) : List (Nat × Nat × Nat × Activity M) :=
  site.interpreters.flatMap fun entry =>
    entry.2.core.activities.zipIdx.filterMap fun activity =>
      activity.1.due?.map fun due => (due, entry.1, activity.2, activity.1)

/-- The sleeping activity that goes on first; of several at the same time the oldest. -/
def firstDue? (site : Site M Env) : Option (Nat × Nat × Nat × Activity M) :=
  site.asleep.foldl (fun first candidate =>
    match first with
    | none => some candidate
    | some earliest => if candidate.1 < earliest.1 then some candidate else first) none

/-- Sets the activity at a place of an interpreter, or ends it. -/
def setActivity (site : Site M Env) (number place : Nat) (activity : Option (Activity M)) :
    Site M Env :=
  match site.interpreter? number with
  | none => site
  | some interpreter => site.update number (interpreter.setActivity place activity)

/-- Lets an activity go on to its next sleep or to its end; the end comes with an event. -/
def advance (host : Host M Env) (site : Site M Env) (number place : Nat)
    (activity : Activity M) : Site M Env × Option (Event M) :=
  match activity.job, activity.phase with
  | .timer span, .queued =>
    (site.setActivity number place
      (some { activity with phase := .asleep (site.now + span) }), none)
  | .timer _, .asleep _ =>
    (site.setActivity number place none, some (.elapsed activity.origin))
  | .service task, _ =>
    let (progress, env) := host.proceed task site.env
    let site := { site with env }
    match progress with
    | .sleeping span rest =>
      (site.setActivity number place
        (some { activity with job := .service rest, phase := .asleep (site.now + span) }), none)
    | .resolved outcome =>
      (site.setActivity number place none, some (.ofOutcome activity.origin outcome))

/-! ## Running plans -/

mutual

/-- Carries out a plan to its end. -/
def follow (host : Host M Env) : Nat → {α : Type} → Plan M Env α → Site M Env →
    Option (α × Site M Env)
  | 0, _, _, _ => none
  | _ + 1, _, .done result, site => some (result, site)
  | fuel + 1, _, .ask demand next, site =>
    match grant host fuel demand site with
    | none => none
    | some (answer, site) => follow host fuel (next answer) site

/-- Meets one demand. -/
def grant (host : Host M Env) : Nat → (demand : Demand M Env) → Site M Env →
    Option (demand.Answer × Site M Env)
  | 0, _, _ => none
  | _ + 1, .read, site => some (site.env, site)
  | _ + 1, .write env, site => some ((), { site with env })
  | fuel + 1, .call clocked call, site =>
    match site.current with
    | none => some (none, site)
    | some number =>
      match place host fuel clocked call number site with
      | none => none
      | some (reply, site) => some (some reply, site)
  | _ + 1, .look, site => some (site.current?, site)
  | _ + 1, .subscribe listener, site =>
    match site.current, site.current? with
    | some number, some interpreter =>
      let (place, interpreter) := interpreter.subscribe listener
      some (some ⟨number, place⟩, site.update number interpreter)
    | _, _ => some (none, site)
  | _ + 1, .unsubscribe subscription, site =>
    match site.interpreter? subscription.interpreter with
    | none => some (false, site)
    | some interpreter =>
      let (removed, interpreter) := interpreter.unsubscribe subscription.number
      some (removed, site.update subscription.interpreter interpreter)
  | fuel + 1, .settle, site =>
    match settle host fuel site with
    | none => none
    | some site => some ((), site)
  | fuel + 1, .elapse span, site =>
    match elapse host fuel (site.now + span) site with
    | none => none
    | some site => some ((), site)
  | _ + 1, .replace interpreter, site => some ((), site.replace interpreter)

/-- Places a call on an interpreter and waits for its reply. -/
def place (host : Host M Env) : Nat → Bool → Call M → Nat → Site M Env →
    Option (Reply M × Site M Env)
  | 0, _, _, _, _ => none
  | fuel + 1, clocked, call, number, site =>
    match site.interpreter? number with
    | none => none
    | some interpreter =>
      match interpreter.enter call with
      | (interpreter, some reply) => some (reply, (site.update number interpreter).sweep)
      | (interpreter, none) => attend host fuel clocked number (site.update number interpreter)

/-- Attends to an interpreter, answering its callbacks, until the call on top of its stack
returns. -/
def attend (host : Host M Env) : Nat → Bool → Nat → Site M Env → Option (Reply M × Site M Env)
  | 0, _, _, _ => none
  | fuel + 1, clocked, number, site =>
    match site.interpreter? number with
    | none => none
    | some interpreter =>
      match interpreter.prompt with
      | some (.query query next) =>
        match follow host fuel (host.answer clocked query) site with
        | none => none
        | some (answer, site) =>
          match site.interpreter? number with
          | none => none
          | some interpreter =>
            attend host fuel clocked number
              (site.update number (interpreter.resume (next answer)))
      | some (.notify listener snapshot) =>
        match follow host fuel (host.notify clocked listener snapshot) site with
        | none => none
        | some (_, site) =>
          match site.interpreter? number with
          | none => none
          | some interpreter =>
            attend host fuel clocked number (site.update number interpreter.notified)
      | none =>
        match interpreter.tick with
        | (interpreter, some reply) => some (reply, (site.update number interpreter).sweep)
        | (interpreter, none) => attend host fuel clocked number (site.update number interpreter)

/-- Lets everything happen that is ready at this time. -/
def settle (host : Host M Env) : Nat → Site M Env → Option (Site M Env)
  | 0, _ => none
  | fuel + 1, site =>
    let ready :=
      match site.queued? with
      | some found => some found
      | none =>
        match site.firstDue? with
        | none => none
        | some (due, found) => if due ≤ site.now then some found else none
    match ready with
    | none => some site
    | some (number, index, activity) =>
      match advance host site number index activity with
      | (site, none) => settle host fuel site
      | (site, some event) =>
        match place host fuel true (.post event) number site with
        | none => none
        | some (_, site) => settle host fuel site

/-- Moves the clock to the given time, stopping at every time at which something is due. -/
def elapse (host : Host M Env) : Nat → Nat → Site M Env → Option (Site M Env)
  | 0, _, _ => none
  | fuel + 1, target, site =>
    match settle host fuel site with
    | none => none
    | some site =>
      match site.firstDue? with
      | none => some { site with now := target }
      | some (due, _) =>
        if due ≤ target then elapse host fuel target { site with now := due }
        else some { site with now := target }

end

end Site

end Statechart
