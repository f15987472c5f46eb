import Statechart.Document.Encodings
import Statechart.Login.Account

/-!
# Documents of accounts

A rejection is written as an object that begins with its kind. When it is read, the kind may stand
anywhere among the members, but everything beside it has to be sound and not too deep, because the
members are gathered before it is known which of them count.
-/
namespace Statechart.Login

def Identity.toDocument (identity : Identity) : Document :=
  .ofFields [("name", .ofString identity.name)]

def Identity.ofDocument? (document : Document) : Option Identity := do
  let fields ← document.fields? ["name"]
  let name ← fields.required "name" Document.string?
  return { name }

def Credentials.toDocument (credentials : Credentials) : Document :=
  .ofFields [("user_name", .ofString credentials.userName),
    ("password", .ofString credentials.password)]

/-- The credentials of a document; what it lacks is as usual. -/
def Credentials.ofDocument? (document : Document) : Option Credentials := do
  let usual : Credentials := {}
  let fields ← document.fields? ["user_name", "password"]
  let userName ← fields.defaulted "user_name" usual.userName Document.string?
  let password ← fields.defaulted "password" usual.password Document.string?
  return { userName, password }

def Standing.toDocument (standing : Standing) : Document := .ofConstant Standing.name standing

def Standing.ofDocument? (document : Document) : Option Standing :=
  document.constantOf? Standing.ofName?

/-! ## Rejections -/

namespace Rejection

def toDocument : Rejection → Document
  | .mfaRequired message =>
    .ofFields [("kind", .ofString "mfa_required"), ("message", .ofString message)]
  | .rejected reason => .ofFields [("kind", .ofString "rejected"), ("reason", .ofString reason)]
  | .network message => .ofFields [("kind", .ofString "network"), ("message", .ofString message)]

/-- The field that a kind of rejection has, and the rejection with that field. -/
def variant? (kind : String) : Option (String × (String → Rejection)) :=
  if kind = "mfa_required" then some ("message", .mfaRequired)
  else if kind = "rejected" then some ("reason", .rejected)
  else if kind = "network" then some ("message", .network)
  else none

/-- The deepest that lists and objects may be nested where members are gathered. -/
def maxDepth : Nat := 127

/-- The members of a document that are gathered: the kind, and the others as a document of the same
form. -/
def split? : Document → Option (Document × Document)
  | .object members =>
    match members.partition fun entry => entry.1 = some "kind" with
    | ([(_, kind)], others) => some (kind, .object others)
    | _ => none
  | .list (kind :: others) => some (kind, .list others)
  | _ => none

/-- The rejection of a document that stands inside the given number of lists and objects. -/
def ofDocument? (enclosing : Nat) (document : Document) : Option Rejection := do
  let (kind, others) ← split? document
  let .text (some kind) := kind | none
  if !others.isSound || maxDepth < enclosing + others.depth then none
  else
    let (name, make) ← variant? kind
    let fields ← others.fields? [name]
    let value ← fields.required name Document.string?
    return make value

end Rejection

/-! ## Accounts -/

def Account.toDocument (account : Account) : Document :=
  .ofFields [("status", account.standing.toDocument), ("is_loading", .bool account.isLoading),
    ("user", .ofOption Identity.toDocument account.user),
    ("error", .ofOption Rejection.toDocument account.error)]

/-- The account of a document that stands inside the given number of lists and objects. -/
def Account.ofDocument? (enclosing : Nat) (document : Document) : Option Account := do
  let fields ← document.fields? ["status", "is_loading", "user", "error"]
  let standing ← fields.required "status" Standing.ofDocument?
  let isLoading ← fields.required "is_loading" Document.bool?
  let user ← fields.optional "user" Identity.ofDocument?
  let error ← fields.optional "error" (Rejection.ofDocument? (enclosing + 1))
  return { standing, isLoading, user, error }

end Statechart.Login
