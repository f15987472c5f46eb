import Statechart.Document
import Statechart.Text.Quoted

/-!
# The written form of a document

Documents are written without blanks. In texts the quote, the backslash and the characters below
the space are escaped, some by a letter and the others by their code; everything else stands for
itself.
-/
namespace Statechart.Document

open Statechart.Text (hexDigit)

def escapeChar (c : Char) : List Char :=
  if c = '"' then ['\\', '"']
  else if c = '\\' then ['\\', '\\']
  else if c.toNat = 8 then ['\\', 'b']
  else if c.toNat = 9 then ['\\', 't']
  else if c.toNat = 10 then ['\\', 'n']
  else if c.toNat = 12 then ['\\', 'f']
  else if c.toNat = 13 then ['\\', 'r']
  else if c.toNat < 32 then
    ['\\', 'u', '0', '0', hexDigit (c.toNat / 16), hexDigit (c.toNat % 16)]
  else [c]

/-- A text in quotes. One without content is written as half of a surrogate pair. -/
def printText : Option String → List Char
  | none => ['"', '\\', 'u', 'd', '8', '0', '0', '"']
  | some content => '"' :: content.toList.flatMap escapeChar ++ ['"']

def printNat (value : Nat) : List Char := Nat.toDigits 10 value

def printNumeral (numeral : Numeral) : List Char :=
  (if numeral.negative then ['-'] else []) ++ printNat numeral.whole ++
    (if numeral.fraction.isEmpty then []
      else '.' :: numeral.fraction.map fun digit => Char.ofNat (48 + digit)) ++
    (match numeral.exponent with
      | none => []
      | some exponent =>
        'e' :: (if exponent < 0 then ['-'] else []) ++ printNat exponent.natAbs)

mutual

/-- The characters of a document. -/
def print : Document → List Char
  | .null => ['n', 'u', 'l', 'l']
  | .bool true => ['t', 'r', 'u', 'e']
  | .bool false => ['f', 'a', 'l', 's', 'e']
  | .number numeral => printNumeral numeral
  | .text content => printText content
  | .list items => '[' :: printItems items ++ [']']
  | .object members => '\x7b' :: printMembers members ++ ['\x7d']

/-- Items with commas between them. -/
def printItems : List Document → List Char
  | [] => []
  | [item] => item.print
  | item :: rest => item.print ++ ',' :: printItems rest

/-- Members with commas between them. -/
def printMembers : List (Option String × Document) → List Char
  | [] => []
  | [(key, value)] => printText key ++ ':' :: value.print
  | (key, value) :: rest => printText key ++ ':' :: value.print ++ ',' :: printMembers rest

end

/-- The written form of a document. -/
def render (document : Document) : String := String.ofList document.print

end Statechart.Document
