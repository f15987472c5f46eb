/-!
# Accounts: who is signed in, and what a login attempt needs
-/
namespace Statechart.Login

/-- Whether somebody is signed in. -/
inductive Standing where
  | unauthenticated
  | authenticated
  deriving DecidableEq, Repr

def Standing.name : Standing → String
  | .unauthenticated => "unauthenticated"
  | .authenticated => "authenticated"

def Standing.ofName? (text : String) : Option Standing :=
  [Standing.unauthenticated, .authenticated].find? fun standing => standing.name == text

/-- A user, as known to the authenticator and kept by the store. -/
structure Identity where
  name : String
  deriving DecidableEq, Repr

/-- What a login attempt is made with. -/
structure Credentials where
  userName : String := "me"
  password : String := "psw"
  deriving DecidableEq, Repr

/-- Why an attempt failed. -/
inductive Rejection where
  | mfaRequired (message : String)
  | rejected (reason : String)
  | network (message : String)
  deriving DecidableEq, Repr

namespace Rejection

/-- Whether a second factor is asked for. -/
def isMfaRequired : Rejection → Bool
  | .mfaRequired _ => true
  | _ => false

/-- A rejection as told to people. -/
def message : Rejection → String
  | .mfaRequired message => "Multi-factor authentication required: " ++ message
  | .rejected reason => "Credentials rejected: " ++ reason
  | .network message => "Authentication service unreachable: " ++ message

end Rejection

/-- The context of the login chart. An error stays until the next attempt comes to an end. -/
structure Account where
  standing : Standing := .unauthenticated
  isLoading : Bool := false
  user : Option Identity := none
  error : Option Rejection := none
  deriving DecidableEq, Repr

namespace Account

/-- The account of a user who was signed in before, or of nobody. -/
def restored (user : Option Identity) : Account :=
  { standing := if user.isSome then .authenticated else .unauthenticated, user }

/-- Whether the account says that somebody is signed in. -/
def isAuthenticated (account : Account) : Bool := account.standing = .authenticated

/-- Whether the account has a user exactly when it says that somebody is signed in. -/
def isConsistent (account : Account) : Bool := account.isAuthenticated = account.user.isSome

end Account

/-- What a session is told to do. -/
inductive Command where
  | login (credentials : Credentials)
  | logout
  deriving DecidableEq, Repr

/-- A command without its credentials. -/
inductive CommandKind where
  | login
  | logout
  deriving DecidableEq, Repr

def Command.kind : Command → CommandKind
  | .login _ => .login
  | .logout => .logout

def CommandKind.name : CommandKind → String
  | .login => "Login"
  | .logout => "Logout"

end Statechart.Login
