import Statechart.Time.Calendar
import Statechart.Text.Blank

/-!
# Timestamps and their written form

A timestamp is a number of seconds since 1970 in universal time and a number of nanoseconds. More
than a second's worth of nanoseconds means a leap second, which is written as second sixty.

Timestamps are written with the fewest groups of three fraction digits that are exact. They are
read more freely: with one digit where two are usual, with blanks between the parts, with any
offset of less than a day, and with more digits than count.
-/
namespace Statechart.Time

open Statechart.Text (skipBlank isBlank)

/-- A moment in universal time. -/
structure Timestamp where
  seconds : Int
  nanos : Nat
  deriving DecidableEq, Repr

/-- A length of time that is not negative. -/
structure Span where
  seconds : Nat
  nanos : Nat
  deriving DecidableEq, Repr

def nanosPerSecond : Nat := 1000000000

def secondsPerDay : Int := 86400

namespace Timestamp

/-- The seconds passed since midnight. -/
def secondOfDay (time : Timestamp) : Nat := (time.seconds % secondsPerDay).toNat

/-- Whether a moment lies in a leap second. -/
def isLeap (time : Timestamp) : Bool := nanosPerSecond ≤ time.nanos

/-- The length of the leap seconds that are counted between two times of day: one if the earlier
lies in a leap second that the later has behind it. -/
def leapBetween (later earlier : Timestamp) : Int :=
  if earlier.secondOfDay < later.secondOfDay then if earlier.isLeap then 1 else 0
  else if later.secondOfDay < earlier.secondOfDay then if later.isLeap then -1 else 0
  else 0

/-- The time from one moment to a later one. -/
def since? (later earlier : Timestamp) : Option Span :=
  let seconds := later.seconds - earlier.seconds + leapBetween later earlier
  let nanos := seconds * nanosPerSecond + ((later.nanos : Int) - earlier.nanos)
  if nanos < 0 then none
  else some ⟨nanos.toNat / nanosPerSecond, nanos.toNat % nanosPerSecond⟩

/-! ## Writing -/

/-- The digits of a number, filled up with zeros to a width. -/
def padded (width value : Nat) : String :=
  let digits := toString value
  String.ofList (List.replicate (width - digits.length) '0') ++ digits

/-- A year: four digits, or a sign and at least four where they do not suffice. -/
def printYear (year : Int) : String :=
  if 0 ≤ year && year ≤ 9999 then padded 4 year.toNat
  else (if year < 0 then "-" else "+") ++ padded 4 year.natAbs

/-- The fraction of a second with no, three, six or nine digits. -/
def printFraction (nanos : Nat) : String :=
  if nanos = 0 then ""
  else if nanos % 1000000 = 0 then "." ++ padded 3 (nanos / 1000000)
  else if nanos % 1000 = 0 then "." ++ padded 6 (nanos / 1000)
  else "." ++ padded 9 nanos

/-- The written form in universal time. -/
def render (time : Timestamp) : String :=
  let date := Date.ofDays (time.seconds / secondsPerDay)
  let seconds := time.secondOfDay
  let second := seconds % 60 + (if time.isLeap then 1 else 0)
  let nanos := if time.isLeap then time.nanos - nanosPerSecond else time.nanos
  printYear date.year ++ "-" ++ padded 2 date.month ++ "-" ++ padded 2 date.day ++ "T" ++
    padded 2 (seconds / 3600) ++ ":" ++ padded 2 (seconds / 60 % 60) ++ ":" ++
    padded 2 second ++ printFraction nanos ++ "Z"

/-! ## Reading -/

def digit? (c : Char) : Option Nat :=
  if '0' ≤ c && c ≤ '9' then some (c.toNat - 48) else none

/-- At most so many digits, behind those read already. -/
def readMore : Nat → Nat → List Char → Nat × List Char
  | 0, value, input => (value, input)
  | width + 1, value, c :: rest =>
    match digit? c with
    | none => (value, c :: rest)
    | some digit => readMore width (10 * value + digit) rest
  | _ + 1, value, [] => (value, [])

/-- A number of at least one and at most so many digits. -/
def readNumber (width : Nat) : List Char → Option (Nat × List Char)
  | [] => none
  | c :: rest => (digit? c).map fun digit => readMore (width - 1) digit rest

/-- A number of any length. -/
def readLong (input : List Char) : Option (Nat × List Char) := readNumber input.length input

/-- A year: up to four digits, or any number of them behind a sign. -/
def readYear (input : List Char) : Option (Int × List Char) :=
  match skipBlank input with
  | '-' :: rest => (readLong rest).map fun (year, rest) => (-(year : Int), rest)
  | '+' :: rest => (readLong rest).map fun (year, rest) => ((year : Int), rest)
  | input => (readNumber 4 input).map fun (year, rest) => ((year : Int), rest)

/-- A number of one or two digits, perhaps behind blanks. -/
def readPart (input : List Char) : Option (Nat × List Char) := readNumber 2 (skipBlank input)

/-- A given character, perhaps behind blanks. -/
def readMark (mark : Char) (input : List Char) : Option (List Char) :=
  match skipBlank input with
  | [] => none
  | c :: rest => if c = mark then some rest else none

/-- The nanoseconds behind a point; digits beyond the ninth are passed over. -/
def readNanos : List Char → Option (Nat × List Char)
  | '.' :: rest =>
    (readNumber 9 rest).map fun (value, after) =>
      (value * Nat.pow 10 (9 - (rest.length - after.length)),
        after.dropWhile fun c => (digit? c).isSome)
  | input => some (0, input)

/-- The offset behind a sign: two digits of hours, two of minutes, colons or blanks between. -/
def readOffset (sign : Int) : List Char → Option (Int × List Char)
  | a :: b :: rest => do
    let tens ← digit? a
    let ones ← digit? b
    match rest.dropWhile fun c => c = ':' || isBlank c with
    | c :: d :: rest =>
      let minuteTens ← digit? c
      let minuteOnes ← digit? d
      if 5 < minuteTens then none
      else
        let hours : Int := 10 * tens + ones
        let minutes : Int := 10 * minuteTens + minuteOnes
        return (sign * (hours * 3600 + minutes * 60), rest)
    | _ => none
  | _ => none

/-- An offset from universal time, in seconds. -/
def readZone (input : List Char) : Option (Int × List Char) :=
  match input with
  | c :: rest =>
    if (input.take 3).map Char.toUpper = ['U', 'T', 'C'] then some (0, input.drop 3)
    else if c = 'Z' || c = 'z' then some (0, rest)
    else if c = '+' then readOffset 1 rest
    else if c = '-' || c = '\u2212' then readOffset (-1) rest
    else none
  | [] => none

/-- The moment of a local date and time of day, unless there is no such time or it lies outside of
the years that dates may lie in. -/
def ofLocal? (date : Date) (hour minute second nanos : Nat) (offset : Int) : Option Timestamp :=
  if date.isValid && hour < 24 && minute < 60 && second ≤ 60 && offset.natAbs < 86400 then
    let seconds := date.toDays * secondsPerDay + hour * 3600 + minute * 60 + min second 59 - offset
    let year := (Date.ofDays (seconds / secondsPerDay)).year
    if firstYear ≤ year && year ≤ lastYear then
      some ⟨seconds, if second = 60 then nanosPerSecond + nanos else nanos⟩
    else none
  else none

/-- The moment that a text is a written form of. -/
def read? (text : String) : Option Timestamp := do
  let (year, input) ← readYear text.toList
  let input ← readMark '-' input
  let (month, input) ← readPart input
  let input ← readMark '-' input
  let (day, input) ← readPart input
  let input ← match input with
    | c :: rest => if c = 't' || c = 'T' || c = ' ' then some rest else none
    | [] => none
  let (hour, input) ← readPart input
  let input ← readMark ':' input
  let (minute, input) ← readPart input
  let input ← readMark ':' input
  let (second, input) ← readPart input
  let (nanos, input) ← readNanos input
  let (offset, input) ← readZone (skipBlank input)
  if (skipBlank input).isEmpty then
    ofLocal? ⟨year, month, day⟩ hour minute second nanos offset
  else none

end Timestamp

end Statechart.Time
