import Statechart.Login.Chart
import Statechart.Login.Settings
import Statechart.Site

/-!
# Sessions: the login chart under command

A session is an interpreter of the login chart with credentials to log in with. An observer listens
to it, writes down the snapshots it hears, and may react to some of them with commands of its own.
-/
namespace Statechart.Login

/-- A failure of a session. -/
abbrev Fault : Type := Failure State

/-- A snapshot of a session. -/
abbrev View : Type := Snapshot State Account

/-- What a session can be told. -/
inductive Order where
  | start
  /-- Logs in with the given credentials, or with the session's own. -/
  | login (credentials : Option Credentials)
  | logout
  | stop
  deriving DecidableEq, Repr

/-- What an order comes to. -/
inductive OrderResult where
  | started (result : Except Fault View)
  | obeyed (result : Except Fault Unit)
  | nothing

/-- What an observer does, once, on a snapshot of the given state and status. -/
structure Reaction where
  state : State
  status : Status
  order : Order
  deriving DecidableEq, Repr

/-- What an observer writes down. -/
inductive Heard where
  | view (view : View)
  | reacted (order : Order) (result : OrderResult)

/-- What sessions work with, and what their observer knows. -/
structure Desk where
  backend : Backend
  /-- The credentials of a login without any. -/
  credentials : Credentials
  reactions : List Reaction := []
  heard : List Heard := []

/-- What callers and callbacks of a session do. -/
abbrev Deed : Type → Type := Plan machine Desk

def desk : Deed Desk := .ask .read .done

def change (f : Desk → Desk) : Deed Unit := desk >>= fun desk => .ask (.write (f desk)) .done

/-- What a reply tells. -/
def OrderResult.ofReply : Option (Reply machine) → OrderResult
  | some (.started result) => .started result
  | some (.posted result) => .obeyed result
  | _ => .nothing

/-- The call that an order is. -/
def Order.call (own : Credentials) : Order → Call machine
  | .start => .start true
  | .login credentials => .post (.signal (.login (credentials.getD own)))
  | .logout => .post (.signal .logout)
  | .stop => .stop

def Order.perform (order : Order) : Deed OrderResult := do
  let desk ← desk
  .ask (.call true (order.call desk.credentials)) fun reply => .done (.ofReply reply)

/-! ## The observer -/

def write (heard : Heard) : Deed Unit :=
  change fun desk => { desk with heard := desk.heard ++ [heard] }

/-- Whether a reaction is to a given snapshot. -/
def Reaction.isTo (reaction : Reaction) (view : View) : Bool :=
  reaction.state = view.state && reaction.status = view.status

/-- What the observer does with a snapshot. -/
def observe (view : View) : Deed Unit := do
  write (.view view)
  let known ← desk
  match known.reactions.find? fun reaction => reaction.isTo view with
  | none => return ()
  | some reaction =>
    change fun desk => { desk with reactions := desk.reactions.eraseP fun other => other.isTo view }
    let result ← reaction.order.perform
    write (.reacted reaction.order result)

/-- What a callback of a session answers. -/
def answerQuery (query : Query machine) : Deed query.Answer := do
  let known ← desk
  let (reply, backend) := answer query known.backend
  change fun desk => { desk with backend }
  .done reply

/-- How an attempt goes on at the desk. -/
def proceedAt (attempt : Attempt) (desk : Desk) : Progress machine × Desk :=
  let (progress, backend) := proceed attempt desk.backend
  (progress, { desk with backend })

def host : Host machine Desk where
  answer := fun _ query => answerQuery query
  notify := fun _ _ view => observe view
  proceed := proceedAt

/-! ## Runs of sessions -/

/-- One step in the run of a session. -/
inductive Step where
  | order (order : Order)
  | advance (span : Nat)
  /-- Steps between which nothing settles. -/
  | batch (steps : List Step)
  /-- Switches a memory store off or on. -/
  | setUnavailable (unavailable : Bool)
  /-- Changes the file of a file store. -/
  | setFile (slot : FileSlot)
  /-- Drops the session and makes a new one with the same settings, store and authenticator. -/
  | reopen
  | fault
  | machineId
  | history
  | entries (state : State)
  | authenticator

mutual

/-- What a step comes to. -/
inductive Outcome where
  | order (result : OrderResult)
  | several (answers : List Answer)
  | fault (fault : Option Fault)
  | machineId (id : String)
  | history (history : History State Unit)
  | count (value : Nat)
  | authenticator (authenticator : Authenticator)

/-- What a step comes to, what the observer heard since the step before, and where the session and
its store are now. -/
inductive Answer where
  | mk (outcome : Outcome) (heard : List Heard) (view : View) (store : Store)

end

/-- The number of the observer among the listeners. -/
def observer : Nat := 0

/-- Makes a session and has the observer listen to it. -/
def openSession (fresh : Interpreter machine) : Deed Unit :=
  .ask (.replace (some fresh)) fun _ => .ask (.subscribe observer) fun _ => .done ()

/-- The session as it is now; the given one where there is none. -/
def session (fresh : Interpreter machine) : Deed (Interpreter machine) :=
  .ask .look fun found => .done (found.getD fresh)

/-- What a step came to, with what was heard and the state of things at this moment. -/
def report (fresh : Interpreter machine) (outcome : Outcome) : Deed Answer := do
  let known ← desk
  change fun desk => { desk with heard := [] }
  let current ← session fresh
  return .mk outcome known.heard current.snapshot known.backend.store

/-- Changes the store behind the session's back. -/
def changeStore (f : Store → Store) : Deed Outcome := do
  change fun desk => { desk with backend := { desk.backend with store := f desk.backend.store } }
  return .order .nothing

mutual

def Step.perform (fresh : Interpreter machine) : Step → Deed Outcome
  | .order order => return .order (← order.perform)
  | .advance span => .ask (.elapse span) fun _ => .done (.order .nothing)
  | .batch steps => return .several (← performBatch fresh steps)
  | .setUnavailable unavailable => changeStore (Store.setUnavailable unavailable)
  | .setFile slot => changeStore (Store.setSlot slot)
  | .reopen => do
    openSession fresh
    return .order .nothing
  | .fault => return .fault (← session fresh).core.fault
  | .machineId => return .machineId (← session fresh).graph.id
  | .history => return .history (← session fresh).core.history
  | .entries state => return .count ((← session fresh).core.history.entries state)
  | .authenticator => return .authenticator (← desk).backend.authenticator

/-- Carries out steps between which nothing settles. -/
def performBatch (fresh : Interpreter machine) : List Step → Deed (List Answer)
  | [] => return []
  | step :: rest => do
    let outcome ← step.perform fresh
    let first ← report fresh outcome
    return first :: (← performBatch fresh rest)

end

/-- Carries out steps, letting everything settle after each. -/
def performAll (fresh : Interpreter machine) : List Step → Deed (List Answer)
  | [] => return []
  | step :: rest => do
    let outcome ← step.perform fresh
    .ask .settle fun _ => do
      let first ← report fresh outcome
      return first :: (← performAll fresh rest)

/-- Enough steps for every run that comes to an end in reasonable time. -/
def fuel : Nat := 100000000

/-- Runs a session; nothing comes of a run without end. -/
def run? (graph : Graph machine) (settings : Settings) (backend : Backend)
    (reactions : List Reaction) (steps : List Step) : Option (List Answer) :=
  let fresh := Interpreter.fresh graph settings.interpreter
  let plan : Deed (List Answer) := do
    openSession fresh
    performAll fresh steps
  (Site.follow host fuel plan
    { env := { backend, credentials := settings.credentials, reactions } }).map Prod.fst

end Statechart.Login
