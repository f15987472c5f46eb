/-!
# Documents: JSON texts as trees

A document keeps what can be told apart by a reader: the members of an object stay in order and may
repeat, a number keeps its parts, and a text that holds half of a surrogate pair is kept as a text
without content. Such a text is well formed, but it names no string.
-/
namespace Statechart

/-- A number as written: sign, whole part, digits behind the point, exponent. -/
structure Numeral where
  negative : Bool
  whole : Nat
  fraction : List Nat
  exponent : Option Int
  deriving DecidableEq, Repr

/-- A JSON value. -/
inductive Document where
  | null
  | bool (value : Bool)
  | number (numeral : Numeral)
  | text (content : Option String)
  | list (items : List Document)
  | object (members : List (Option String × Document))

namespace Numeral

/-- A whole number without a sign. -/
def ofNat (value : Nat) : Numeral := ⟨false, value, [], none⟩

def ofInt (value : Int) : Numeral := ⟨decide (value < 0), value.natAbs, [], none⟩

/-- The value of a number that is written without sign, fraction and exponent and fits into
sixty-four bits. -/
def natural? (numeral : Numeral) : Option UInt64 :=
  if !numeral.negative && numeral.fraction.isEmpty && numeral.exponent.isNone &&
      numeral.whole < UInt64.size then
    some (UInt64.ofNat numeral.whole)
  else none

/-- The value of a number that is written without fraction and exponent and fits into sixty-four
bits with a sign. A negative zero is no integer. -/
def integer? (numeral : Numeral) : Option Int64 :=
  if !numeral.fraction.isEmpty || numeral.exponent.isSome then none
  else if numeral.negative then
    if 0 < numeral.whole && numeral.whole ≤ Nat.pow 2 63 then some (Int64.ofInt (-numeral.whole))
    else none
  else if numeral.whole < Nat.pow 2 63 then some (Int64.ofNat numeral.whole)
  else none

/-! ### Numbers as doubles

A number is rounded to a double in three places: a significand of at most sixty-four bits is taken
from its digits and rounded, so is the power of ten that goes with it, and so is their product. -/

/-- A whole number rounded to fifty-three significant bits, ties to even. -/
def roundToDouble (value : Nat) : Nat :=
  let unit := Nat.pow 2 (value.log2 + 1 - 53)
  let quotient := value / unit
  let remainder := value % unit
  if unit < 2 * remainder || (2 * remainder = unit && quotient % 2 = 1) then (quotient + 1) * unit
  else quotient * unit

/-- Takes digits into a significand as long as it fits into sixty-four bits. Comes with the number
of digits that are passed over: the first that does not fit, and all behind it. -/
def takeDigits (significand : Nat) : List Nat → Nat × Nat
  | [] => (significand, 0)
  | digit :: rest =>
    if 10 * significand + digit < UInt64.size then takeDigits (10 * significand + digit) rest
    else (significand, rest.length + 1)

/-- The significand of a number and the exponent of the power of ten that goes with it. -/
def parts (numeral : Numeral) : Nat × Int :=
  let digits := (Nat.toDigits 10 numeral.whole).map fun c => c.toNat - 48
  let (upper, passed) := takeDigits 0 digits
  let (significand, dropped) := takeDigits upper numeral.fraction
  (significand, (passed : Int) + dropped - numeral.fraction.length + numeral.exponent.getD 0)

/-- Whether a number rounds to a double that is not infinite. The greatest power of ten among the
doubles has the exponent 308, and the least infinite product lies half a unit above the greatest
double. -/
def isFinite (numeral : Numeral) : Bool :=
  let (significand, exponent) := numeral.parts
  if significand = 0 || exponent < 0 then true
  else if 308 < exponent then false
  else roundToDouble significand * roundToDouble (Nat.pow 10 exponent.toNat) <
    Nat.pow 2 1024 - Nat.pow 2 970

end Numeral

namespace Document

def ofString (value : String) : Document := .text (some value)

def ofUInt64 (value : UInt64) : Document := .number (.ofNat value.toNat)

def ofInt64 (value : Int64) : Document := .number (.ofInt value.toInt)

/-- The value, or null in its absence. -/
def ofOption {α : Type} (encode : α → Document) : Option α → Document
  | none => .null
  | some value => encode value

/-- An object with the given members, in order. -/
def ofFields (fields : List (String × Document)) : Document :=
  .object (fields.map fun field => (some field.1, field.2))

def string? : Document → Option String
  | .text content => content
  | _ => none

def bool? : Document → Option Bool
  | .bool value => some value
  | _ => none

def natural? : Document → Option UInt64
  | .number numeral => numeral.natural?
  | _ => none

def integer? : Document → Option Int64
  | .number numeral => numeral.integer?
  | _ => none

def list? {α : Type} (decode : Document → Option α) : Document → Option (List α)
  | .list items => items.mapM decode
  | _ => none

/-- The name of a constant: its text, or an object with this name as only key and null as value. -/
def constant? : Document → Option String
  | .text content => content
  | .object [(key, .null)] => key
  | _ => none

/-! ## Shape -/

mutual

/-- How deep lists and objects are nested. -/
def depth : Document → Nat
  | .list items => depthOfItems items + 1
  | .object members => depthOfMembers members + 1
  | _ => 0

def depthOfItems : List Document → Nat
  | [] => 0
  | item :: rest => max item.depth (depthOfItems rest)

def depthOfMembers : List (Option String × Document) → Nat
  | [] => 0
  | (_, value) :: rest => max value.depth (depthOfMembers rest)

end

mutual

/-- Whether every number is finite and every text has content, keys included. -/
def isSound : Document → Bool
  | .number numeral => numeral.isFinite
  | .text content => content.isSome
  | .list items => areSoundItems items
  | .object members => areSoundMembers members
  | _ => true

def areSoundItems : List Document → Bool
  | [] => true
  | item :: rest => item.isSound && areSoundItems rest

def areSoundMembers : List (Option String × Document) → Bool
  | [] => true
  | (key, value) :: rest => key.isSome && value.isSound && areSoundMembers rest

end

end Document

end Statechart
