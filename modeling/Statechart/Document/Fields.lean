import Statechart.Document

/-!
# Fields: structures read from documents

A structure is written as an object with its fields as members, or as a list of their values in
order of declaration. Members that are no fields are passed over; a field given twice, a list that
is too long, or a key without content spoil the whole.
-/
namespace Statechart.Document

/-- The fields found in a document. -/
structure Fields where
  /-- Whether they are told apart by their place. -/
  positional : Bool
  /-- The document of each field that is there. -/
  found : String → Option Document

/-- The first member of a key. -/
def member? (members : List (Option String × Document)) (name : String) : Option Document :=
  (members.find? fun entry => entry.1 = some name).map Prod.snd

/-- The item at the place of a name among names. -/
def itemAt? : List String → List Document → String → Option Document
  | name :: names, item :: items, wanted =>
    if name = wanted then some item else itemAt? names items wanted
  | _, _, _ => none

/-- The fields of the given names in a document. -/
def fields? (names : List String) : Document → Option Fields
  | .object members =>
    if members.all (fun entry => entry.1.isSome) &&
        names.all (fun name => (members.countP fun entry => entry.1 = some name) ≤ 1) then
      some ⟨false, member? members⟩
    else none
  | .list items =>
    if items.length ≤ names.length then some ⟨true, itemAt? names items⟩ else none
  | _ => none

namespace Fields

variable {α : Type}

/-- A field that has to be there. -/
def required (fields : Fields) (name : String) (decode : Document → Option α) : Option α :=
  (fields.found name).bind decode

/-- A field that may be null, or absent where fields have names. -/
def optional (fields : Fields) (name : String) (decode : Document → Option α) :
    Option (Option α) :=
  match fields.found name with
  | none => if fields.positional then none else some none
  | some .null => some none
  | some document => (decode document).map some

/-- A field that has a default. -/
def defaulted (fields : Fields) (name : String) (default : α) (decode : Document → Option α) :
    Option α :=
  match fields.found name with
  | none => some default
  | some document => decode document

/-- A field that may be null and is so by default. -/
def nullable (fields : Fields) (name : String) (decode : Document → Option α) :
    Option (Option α) :=
  match fields.found name with
  | none => some none
  | some .null => some none
  | some document => (decode document).map some

end Fields

end Statechart.Document
