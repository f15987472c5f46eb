import Statechart.Activity
import Statechart.Declaration
import Statechart.Login.Authenticator
import Statechart.Login.Store

/-!
# The login chart

    init -- always --> authenticated, if a user was restored
         -- always --> unauthenticated
    unauthenticated -- login --> processAuthentication
    processAuthentication -- done --> authenticated
                          -- error --> unauthenticated
    authenticated -- after the renewal interval --> processRenewToken -- always --> authenticated
                  -- logout --> processUnAuthentication -- always --> unauthenticated

All storage goes through the store: it is read once, when the chart is started, written on every
entry into the authenticated state and cleared on every logout.
-/
namespace Statechart.Login

/-- The states of the chart. -/
inductive State where
  | init
  | unauthenticated
  | processAuthentication
  | authenticated
  | processRenewToken
  | processUnAuthentication
  deriving DecidableEq, Repr

namespace State

def name : State → String
  | .init => "Init"
  | .unauthenticated => "Unauthenticated"
  | .processAuthentication => "ProcessAuthentication"
  | .authenticated => "Authenticated"
  | .processRenewToken => "ProcessRenewToken"
  | .processUnAuthentication => "ProcessUnAuthentication"

def all : List State :=
  [.init, .unauthenticated, .processAuthentication, .authenticated, .processRenewToken,
    .processUnAuthentication]

def ofName? (text : String) : Option State := all.find? fun state => state.name == text

end State

/-- The guards of the chart. -/
inductive Guard where
  /-- A user has been restored. -/
  | hasUser
  /-- The attempt was rejected for want of a second factor. -/
  | mfaRequired
  deriving DecidableEq, Repr

/-- The bodies of the chart's actions. -/
inductive Work : Role → Type where
  | setLoading : Work .assign
  | setAuthentication : Work .assign
  | setError : Work .assign
  | resetLoading : Work .assign
  | clearAuthentication : Work .assign
  /-- Saves the user, if there is one. -/
  | persist : Work .effect
  /-- Clears the store. -/
  | delete : Work .effect
  /-- Does nothing that matters here. -/
  | note : Work .effect
  /-- Takes the account from the store. -/
  | restore : Work .load

/-- The login machine. A listener is known by a number that its owner chose. -/
abbrev machine : Machine where
  State := State
  Context := Account
  Signal := Command
  Kind := CommandKind
  Output := Identity
  Error := Rejection
  Guard := Guard
  Work := Work
  Factory := Unit
  Task := Attempt
  Listener := Nat
  kind := Command.kind
  kindName := CommandKind.name
  stateName := State.name
  isFinal := fun _ => false
  stateEq := inferInstance
  kindEq := inferInstance

/-! ## What the callbacks mean -/

/-- Whether a guard passes. -/
def Guard.passes (guard : Guard) (account : Account) (event : Event machine) : Bool :=
  match guard with
  | .hasUser => account.user.isSome
  | .mfaRequired => (event.error?.map Rejection.isMfaRequired).getD false

/-- The account after a successful attempt. -/
def Account.signedIn (account : Account) (output : Option Identity) : Account where
  standing := if output.isSome then .authenticated else account.standing
  isLoading := false
  user := output <|> account.user
  error := none

/-- A store's answer as an action gives it. -/
def storeAnswer (answer : Except StoreError Unit) : Except ActionError Unit :=
  answer.mapError fun error => ⟨error.message⟩

/-- What the body of an action answers, and the store after it. -/
def Work.perform {role : Role} (work : Work role) (account : Account) (event : Event machine)
    (store : Store) : role.Answer machine × Store :=
  match work with
  | .setLoading => ({ account with isLoading := true }, store)
  | .setAuthentication => (account.signedIn event.output?, store)
  | .setError => ({ account with isLoading := false, error := event.error? }, store)
  | .resetLoading => ({ account with isLoading := false, error := none }, store)
  | .clearAuthentication => ({ account with standing := .unauthenticated, user := none }, store)
  | .persist =>
    match account.user with
    | none => (.ok (), store)
    | some user =>
      let (answer, store) := store.save user
      (storeAnswer answer, store)
  | .delete =>
    let (answer, store) := store.clear
    (storeAnswer answer, store)
  | .note => (.ok (), store)
  | .restore =>
    let (user, store) := store.load
    (.ok (Account.restored user), store)

/-- The attempt made on entry: with the credentials of the login that led there. -/
def attemptOf (event : Event machine) : Attempt :=
  match event.signal? with
  | some (.login credentials) => .fresh credentials
  | _ => .fresh {}

/-- The store and the authenticator that a session works with. -/
structure Backend where
  store : Store
  authenticator : Authenticator

/-- What a callback of the chart answers, and the backend after it. -/
def answer (query : Query machine) (backend : Backend) : query.Answer × Backend :=
  match query with
  | .check guard account event => (guard.passes account event, backend)
  | .perform action account event =>
    let (answer, store) := action.work.perform account event backend.store
    (answer, { backend with store })
  | .create _ _ event => (attemptOf event, backend)

/-- How an attempt goes on. -/
def proceed (attempt : Attempt) (backend : Backend) : Progress machine × Backend :=
  match attempt with
  | .fresh credentials =>
    match backend.authenticator.call credentials with
    | ((none, verdict), authenticator) => (.resolved verdict, { backend with authenticator })
    | ((some latency, verdict), authenticator) =>
      (.sleeping latency (.awaiting verdict), { backend with authenticator })
  | .awaiting verdict => (.resolved verdict, backend)

/-! ## The chart -/

/-- An edge with the given actions. -/
def edge (target : State) (actions : List (Action machine)) (guard : Option Guard) :
    Transition machine :=
  { guard, actions, target := some target }

/-- An action that computes the next account. -/
def assign (name : String) (work : Work .assign) : Action machine := ⟨name, .assign, work⟩

/-- An action that works on the backend. -/
def effect (name : String) (work : Work .effect) : Action machine := ⟨name, .effect, work⟩

/-- The service that makes a login attempt. -/
def authenticate : Service machine where
  id := "authenticate"
  factory := ()
  onDone := [edge .authenticated
    [assign "setAuthentication" .setAuthentication, effect "handleIsAuthenticated" .note] none]
  onError := [edge .unauthenticated [assign "setError" .setError] (some .mfaRequired),
    edge .unauthenticated
      [effect "handleError" .note, assign "resetLoading" .resetLoading] none]

/-- The clause by which the authenticated state renews, if it does. -/
def renewal : Option Nat → List (Clause machine)
  | none => []
  | some interval => [.after interval (edge .processRenewToken [] none)]

/-- The declaration of the chart, renewing after an interval in milliseconds if one is given. -/
def declaration (id : String) (renewInterval : Option Nat) : Declaration machine where
  id := id
  initial := some .init
  context := some {}
  states := [
    ⟨.init, [
      .entry ⟨"restoreAuthentication", .load, .restore⟩,
      .always (edge .authenticated [] (some .hasUser)),
      .always (edge .unauthenticated [] none)]⟩,
    ⟨.unauthenticated, [.on .login (edge .processAuthentication [] none)]⟩,
    ⟨.processAuthentication, [
      .entry (assign "setIsLoading" .setLoading),
      .invoke authenticate]⟩,
    ⟨.authenticated, [
      .entry (effect "persistIdentity" .persist),
      .on .logout (edge .processUnAuthentication [] none)] ++ renewal renewInterval⟩,
    ⟨.processRenewToken, [
      .entry (effect "renewToken" .note),
      .always (edge .authenticated [] none)]⟩,
    ⟨.processUnAuthentication, [
      .entry (assign "clearAuthentication" .clearAuthentication),
      .entry (effect "deleteAuthentication" .delete),
      .always (edge .unauthenticated [] none)]⟩]

/-- The graph of the chart, or what is wrong with its declaration. -/
def graph (id : String) (renewInterval : Option Nat) :
    Except (List (Problem State)) (Graph machine) :=
  (declaration id renewInterval).build

end Statechart.Login
