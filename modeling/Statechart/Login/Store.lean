import Statechart.Document.Printer
import Statechart.Document.Reader
import Statechart.Login.Documents
import Statechart.Text.Utf8

/-!
# Stores: where the signed-in user is kept

A memory store counts its calls and can be made to refuse writing. A file store keeps one document
in a file; clearing it empties the file. Reading never fails: what cannot be read is nobody.
-/
namespace Statechart.Login

/-- Why a store could not be written. -/
inductive StoreError where
  | unwritable (path : String)
  | unavailable (reason : String)
  deriving DecidableEq, Repr

/-- A store error as told to people. -/
def StoreError.message : StoreError → String
  | .unwritable path => "Failed to write identity store at " ++ path
  | .unavailable reason => "Identity store unavailable: " ++ reason

/-- What is found at the path of a file store. -/
inductive FileSlot where
  | missing
  /-- Not even the directory of the file exists. -/
  | unreachable
  | directory
  | text (content : String)
  /-- Bytes that are no text. -/
  | garbled (bytes : List UInt8)
  deriving DecidableEq, Repr

namespace FileSlot

/-- The content of given bytes. -/
def ofBytes (bytes : List UInt8) : FileSlot :=
  match Text.decode? bytes with
  | some content => .text content
  | none => .garbled bytes

def text? : FileSlot → Option String
  | .text content => some content
  | _ => none

/-- What a viewer shows of the file, if it can be read at all. -/
def shown? : FileSlot → Option String
  | .text content => some content
  | .garbled bytes => some (Text.decodeLossy bytes)
  | _ => none

/-- Whether the path leads to something that can be overwritten, or to a place for it. -/
def isWritable : FileSlot → Bool
  | .unreachable => false
  | .directory => false
  | _ => true

end FileSlot

/-- A place where the signed-in user is kept. -/
inductive Store where
  | memory (current : Option Identity) (loads saves clears : Nat) (unavailable : Bool)
  | file (path : String) (slot : FileSlot)
  deriving DecidableEq, Repr

namespace Store

/-- A memory store that holds the given user. -/
def holding (user : Option Identity) : Store := .memory user 0 0 0 false

/-- The document that a file store writes. -/
def storedDocument (user : Identity) : Document := .ofFields [("user", user.toDocument)]

/-- The user of a stored document. -/
def storedUser? (document : Document) : Option Identity := do
  let fields ← document.fields? ["user"]
  fields.required "user" Identity.ofDocument?

/-- The user that the content of a file stands for. -/
def userOfText? (content : String) : Option Identity :=
  if Text.isBlankText content then none else (Document.read? content).bind storedUser?

/-- Why a memory store that is switched off refuses to be written. -/
def disabled : StoreError := .unavailable "memory store disabled"

/-- The user kept. -/
def load : Store → Option Identity × Store
  | .memory current loads saves clears unavailable =>
    (current, .memory current (loads + 1) saves clears unavailable)
  | .file path slot => (slot.text?.bind userOfText?, .file path slot)

/-- Overwrites the file of a file store. -/
def overwrite (path : String) (slot : FileSlot) (content : String) :
    Except StoreError Unit × Store :=
  if slot.isWritable then (.ok (), .file path (.text content))
  else (.error (.unwritable path), .file path slot)

/-- Keeps a user. -/
def save (user : Identity) : Store → Except StoreError Unit × Store
  | .memory current loads saves clears unavailable =>
    if unavailable then (.error disabled, .memory current loads saves clears unavailable)
    else (.ok (), .memory (some user) loads (saves + 1) clears unavailable)
  | .file path slot => overwrite path slot (storedDocument user).render

/-- Keeps nobody. -/
def clear : Store → Except StoreError Unit × Store
  | .memory current loads saves clears unavailable =>
    if unavailable then (.error disabled, .memory current loads saves clears unavailable)
    else (.ok (), .memory none loads saves (clears + 1) unavailable)
  | .file path slot => overwrite path slot ""

/-- Switches a memory store off or on. -/
def setUnavailable (unavailable : Bool) : Store → Store
  | .memory current loads saves clears _ => .memory current loads saves clears unavailable
  | store => store

/-- Puts something else at the path of a file store whose directory exists. -/
def setSlot (slot : FileSlot) : Store → Store
  | .file path .unreachable => .file path .unreachable
  | .file path _ => .file path slot
  | store => store

end Store

end Statechart.Login
