import Statechart.Login.Chart
import Statechart.Text.Quoted

/-!
# Probes: the nodes of the login chart, one at a time

A probe looks at one node with a given account and event, and runs its action lists and its service
on a backend, one list after another, without an interpreter.
-/
namespace Statechart.Login

/-- What the run of an action list comes to. -/
abbrev ListRun : Type := Except (String × ActionError) Account

/-- Runs a list of actions on a backend. -/
def runList (actions : List (Action machine)) (account : Account) (event : Event machine)
    (backend : Backend) : ListRun × Backend :=
  (runActions actions account event).run answer backend

/-- Runs several lists, each on the same account, one after another. -/
def runLists (lists : List (List (Action machine))) (account : Account) (event : Event machine)
    (backend : Backend) : List ListRun × Backend :=
  match lists with
  | [] => ([], backend)
  | actions :: rest =>
    let (run, backend) := runList actions account event backend
    let (runs, backend) := runLists rest account event backend
    (run :: runs, backend)

/-- Runs an attempt to its end: the time it takes and its verdict. An attempt sleeps once at
most. -/
def serve (attempt : Attempt) (backend : Backend) : Nat × Verdict × Backend :=
  match attempt with
  | .awaiting verdict => (0, verdict, backend)
  | .fresh credentials =>
    let ((latency, verdict), authenticator) := backend.authenticator.call credentials
    (latency.getD 0, verdict, { backend with authenticator })

/-- What a probe finds. -/
structure Probe where
  /-- The target of the chosen transition, and the run of its actions. -/
  chosen : Option (Option State × ListRun)
  /-- The target of the chosen eventless transition. -/
  always : Option (Option State)
  /-- The runs of every candidate's actions. -/
  forced : List ListRun
  /-- The runs of the actions of every outcome. -/
  outcomes : List ListRun
  entry : ListRun
  served : Option (Nat × Verdict)
  backend : Backend

def probe (node : Node machine) (account : Account) (event : Event machine) (backend : Backend) :
    Probe :=
  let (choice, backend) := (select (node.candidates event) account event).run answer backend
  let (chosen, backend) :=
    match choice with
    | none => (none, backend)
    | some transition =>
      let (run, backend) := runList transition.actions account event backend
      (some (transition.target, run), backend)
  let (always, backend) := (select node.always account event).run answer backend
  let (forced, backend) :=
    runLists ((node.candidates event).map Transition.actions) account event backend
  let outcomeLists :=
    match node.service with
    | none => []
    | some service => (service.onDone ++ service.onError).map Transition.actions
  let (outcomes, backend) := runLists outcomeLists account event backend
  let (entry, backend) := runList node.entry account event backend
  let (served, backend) :=
    match node.service with
    | none => (none, backend)
    | some _ =>
      let (span, verdict, backend) := serve (attemptOf event) backend
      (some (span, verdict), backend)
  { chosen, always := always.map Transition.target, forced, outcomes, entry, served, backend }

/-! ## Events written out -/

/-- A structure with its fields spelled out. -/
def spellOut (name : String) (fields : List (String × String)) : String :=
  name ++ " \x7b " ++ ", ".intercalate (fields.map fun field => field.1 ++ ": " ++ field.2) ++
    " \x7d"

def Command.describe : Command → String
  | .login credentials =>
    spellOut "Login" [("credentials", spellOut "Credentials"
      [("user_name", Text.quoted credentials.userName),
        ("password", Text.quoted credentials.password)])]
  | .logout => "Logout"

def Identity.describe (identity : Identity) : String :=
  spellOut "Identity" [("name", Text.quoted identity.name)]

def Rejection.describe : Rejection → String
  | .mfaRequired message => spellOut "MfaRequired" [("message", Text.quoted message)]
  | .rejected reason => spellOut "Rejected" [("reason", Text.quoted reason)]
  | .network message => spellOut "Network" [("message", Text.quoted message)]

/-- An event of the login chart with its fields spelled out. -/
def describe (event : Event machine) : String :=
  event.describe Command.describe Identity.describe Rejection.describe

end Statechart.Login
