import Statechart.Document

/-!
# Reading documents

The reader is strict: no leading zeros, no trailing commas, no raw control characters in texts,
nothing behind the value. Spaces, tabs and line ends may stand between tokens.
-/
namespace Statechart.Document

/-- The characters that may stand between tokens. -/
def isGap (c : Char) : Bool := c = ' ' || c = '\t' || c = '\n' || c = '\r'

/-- The characters from the next token on. -/
def skipGap (input : List Char) : List Char := input.dropWhile isGap

def digit? (c : Char) : Option Nat :=
  if '0' ≤ c && c ≤ '9' then some (c.toNat - 48) else none

def hexValue? (c : Char) : Option Nat :=
  if '0' ≤ c && c ≤ '9' then some (c.toNat - 48)
  else if 'a' ≤ c && c ≤ 'f' then some (c.toNat - 87)
  else if 'A' ≤ c && c ≤ 'F' then some (c.toNat - 55)
  else none

/-- The digits that the input begins with, and the rest. -/
def readDigits : List Char → List Nat × List Char
  | [] => ([], [])
  | c :: rest =>
    match digit? c with
    | none => ([], c :: rest)
    | some digit => (digit :: (readDigits rest).1, (readDigits rest).2)

/-- The number that digits stand for. -/
def ofDigits (digits : List Nat) : Nat := digits.foldl (fun value digit => 10 * value + digit) 0

/-! ## Numbers -/

/-- The whole part: a lone zero, or digits that begin with another one. -/
def readWhole (input : List Char) : Option (Nat × List Char) :=
  match readDigits input with
  | ([], _) => none
  | ([0], rest) => some (0, rest)
  | (0 :: _, _) => none
  | (digits, rest) => some (ofDigits digits, rest)

/-- The digits behind a point, if there is one. -/
def readFraction : List Char → Option (List Nat × List Char)
  | '.' :: rest =>
    match readDigits rest with
    | ([], _) => none
    | (digits, rest) => some (digits, rest)
  | input => some ([], input)

/-- The digits of an exponent, with their sign. -/
def readPower (negative : Bool) (input : List Char) : Option (Option Int × List Char) :=
  match readDigits input with
  | ([], _) => none
  | (digits, rest) =>
    some (some (if negative then -(ofDigits digits : Int) else ofDigits digits), rest)

/-- The exponent, if there is one. -/
def readExponent : List Char → Option (Option Int × List Char)
  | c :: rest =>
    if c = 'e' || c = 'E' then
      match rest with
      | '-' :: rest => readPower true rest
      | '+' :: rest => readPower false rest
      | rest => readPower false rest
    else some (none, c :: rest)
  | [] => some (none, [])

/-- A number without its sign. -/
def readMagnitude (negative : Bool) (input : List Char) : Option (Numeral × List Char) := do
  let (whole, rest) ← readWhole input
  let (fraction, rest) ← readFraction rest
  let (exponent, rest) ← readExponent rest
  return (⟨negative, whole, fraction, exponent⟩, rest)

def readNumeral : List Char → Option (Numeral × List Char)
  | '-' :: rest => readMagnitude true rest
  | input => readMagnitude false input

/-! ## Texts -/

/-- The character that a letter behind a backslash stands for. -/
def escape? (c : Char) : Option Nat :=
  if c = '"' then some 0x22
  else if c = '\\' then some 0x5c
  else if c = '/' then some 0x2f
  else if c = 'b' then some 8
  else if c = 'f' then some 12
  else if c = 'n' then some 10
  else if c = 'r' then some 13
  else if c = 't' then some 9
  else none

/-- The codes of a text up to its closing quote. Halves of surrogate pairs are codes of their
own. -/
def readCodes : List Char → Option (List Nat × List Char)
  | [] => none
  | '"' :: rest => some ([], rest)
  | '\\' :: 'u' :: a :: b :: c :: d :: rest => do
    let a ← hexValue? a
    let b ← hexValue? b
    let c ← hexValue? c
    let d ← hexValue? d
    let (codes, rest) ← readCodes rest
    return ((((a * 16 + b) * 16 + c) * 16 + d) :: codes, rest)
  | '\\' :: c :: rest => do
    let code ← escape? c
    let (codes, rest) ← readCodes rest
    return (code :: codes, rest)
  | c :: rest => do
    if c.toNat < 32 || c = '\\' then none
    else
      let (codes, rest) ← readCodes rest
      return (c.toNat :: codes, rest)

/-- Whether a code is the first half of a surrogate pair. -/
def isLeading (code : Nat) : Bool := 0xd800 ≤ code && code ≤ 0xdbff

/-- Whether a code is the second half of a surrogate pair. -/
def isTrailing (code : Nat) : Bool := 0xdc00 ≤ code && code ≤ 0xdfff

/-- The characters that codes stand for, unless half of a pair is without the other. -/
def assemble : List Nat → Option (List Char)
  | [] => some []
  | first :: second :: rest =>
    if isLeading first && isTrailing second then
      (assemble rest).map
        (Char.ofNat (0x10000 + (first - 0xd800) * 0x400 + (second - 0xdc00)) :: ·)
    else if isLeading first || isTrailing first then none
    else (assemble (second :: rest)).map (Char.ofNat first :: ·)
  | [code] => if isLeading code || isTrailing code then none else some [Char.ofNat code]

/-- A text behind its opening quote. -/
def readText (input : List Char) : Option (Option String × List Char) := do
  let (codes, rest) ← readCodes input
  return ((assemble codes).map String.ofList, rest)

/-! ## Values -/

mutual

/-- A value, without gaps around it. -/
def readValue : Nat → List Char → Option (Document × List Char)
  | 0, _ => none
  | _ + 1, 'n' :: 'u' :: 'l' :: 'l' :: rest => some (.null, rest)
  | _ + 1, 't' :: 'r' :: 'u' :: 'e' :: rest => some (.bool true, rest)
  | _ + 1, 'f' :: 'a' :: 'l' :: 's' :: 'e' :: rest => some (.bool false, rest)
  | _ + 1, '"' :: rest => (readText rest).map fun (content, rest) => (.text content, rest)
  | fuel + 1, '[' :: rest =>
    match skipGap rest with
    | ']' :: rest => some (.list [], rest)
    | rest => (readItems fuel rest).map fun (items, rest) => (.list items, rest)
  | fuel + 1, '\x7b' :: rest =>
    match skipGap rest with
    | '\x7d' :: rest => some (.object [], rest)
    | rest => (readMembers fuel rest).map fun (members, rest) => (.object members, rest)
  | _ + 1, input => (readNumeral input).map fun (numeral, rest) => (.number numeral, rest)

/-- The items of a list that has some, and its end. -/
def readItems : Nat → List Char → Option (List Document × List Char)
  | 0, _ => none
  | fuel + 1, input =>
    match readValue fuel input with
    | none => none
    | some (item, rest) =>
      match skipGap rest with
      | ']' :: rest => some ([item], rest)
      | ',' :: rest =>
        (readItems fuel (skipGap rest)).map fun (items, rest) => (item :: items, rest)
      | _ => none

/-- The members of an object that has some, and its end. -/
def readMembers : Nat → List Char → Option (List (Option String × Document) × List Char)
  | 0, _ => none
  | fuel + 1, '"' :: input =>
    match readText input with
    | none => none
    | some (key, rest) =>
      match skipGap rest with
      | ':' :: rest =>
        match readValue fuel (skipGap rest) with
        | none => none
        | some (value, rest) =>
          match skipGap rest with
          | '\x7d' :: rest => some ([(key, value)], rest)
          | ',' :: rest =>
            (readMembers fuel (skipGap rest)).map fun (members, rest) =>
              ((key, value) :: members, rest)
          | _ => none
      | _ => none
  | _ + 1, _ => none

end

/-- The document that characters are the written form of. Every step of the reader takes a
character, so twice their number is more than it can need. -/
def readChars (input : List Char) : Option Document :=
  match readValue (2 * input.length + 2) (skipGap input) with
  | none => none
  | some (document, rest) => if (skipGap rest).isEmpty then some document else none

/-- The document that a text is the written form of. -/
def read? (text : String) : Option Document := readChars text.toList

end Statechart.Document
