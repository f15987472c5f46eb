/-!
# UTF-8: bytes as text

Bytes are read one sequence at a time. Where no sequence can be read, the longest beginning of one
counts as a single unreadable piece, or else the byte alone.
-/
namespace Statechart.Text

/-- What a first byte of a longer sequence asks for: its own bits, and for each further byte the
range it must lie in. The first range keeps out overlong forms and surrogates. -/
def sequenceOf (byte : UInt8) : Option (Nat × List (UInt8 × UInt8)) :=
  if 0xc2 ≤ byte && byte ≤ 0xdf then some (byte.toNat - 0xc0, [(0x80, 0xbf)])
  else if byte = 0xe0 then some (0, [(0xa0, 0xbf), (0x80, 0xbf)])
  else if byte = 0xed then some (0xd, [(0x80, 0x9f), (0x80, 0xbf)])
  else if 0xe1 ≤ byte && byte ≤ 0xef then
    some (byte.toNat - 0xe0, [(0x80, 0xbf), (0x80, 0xbf)])
  else if byte = 0xf0 then some (0, [(0x90, 0xbf), (0x80, 0xbf), (0x80, 0xbf)])
  else if byte = 0xf4 then some (4, [(0x80, 0x8f), (0x80, 0xbf), (0x80, 0xbf)])
  else if 0xf1 ≤ byte && byte ≤ 0xf3 then
    some (byte.toNat - 0xf0, [(0x80, 0xbf), (0x80, 0xbf), (0x80, 0xbf)])
  else none

/-- Reads the further bytes of a sequence: its character, if it is complete, and the rest. -/
def readFurther : List (UInt8 × UInt8) → Nat → List UInt8 → Option Char × List UInt8
  | [], bits, bytes => (some (Char.ofNat bits), bytes)
  | _ :: _, _, [] => (none, [])
  | range :: ranges, bits, byte :: bytes =>
    if range.1 ≤ byte && byte ≤ range.2 then
      readFurther ranges (bits * 64 + (byte.toNat - 0x80)) bytes
    else
      (none, byte :: bytes)

/-- Reads one piece: a character, or nothing where no character can be read. -/
def readPiece (byte : UInt8) (bytes : List UInt8) : Option Char × List UInt8 :=
  if byte < 0x80 then (some (Char.ofNat byte.toNat), bytes)
  else
    match sequenceOf byte with
    | none => (none, bytes)
    | some (bits, ranges) => readFurther ranges bits bytes

theorem length_readFurther (ranges : List (UInt8 × UInt8)) (bits : Nat) (bytes : List UInt8) :
    (readFurther ranges bits bytes).2.length ≤ bytes.length := by
  induction ranges generalizing bits bytes with
  | nil => simp [readFurther]
  | cons range ranges ih =>
    cases bytes with
    | nil => simp [readFurther]
    | cons byte bytes =>
      rw [readFurther]
      split
      · exact Nat.le_succ_of_le (ih _ _)
      · exact Nat.le_refl _

theorem length_readPiece (byte : UInt8) (bytes : List UInt8) :
    (readPiece byte bytes).2.length ≤ bytes.length := by
  rw [readPiece]
  split
  · exact Nat.le_refl _
  · split
    · exact Nat.le_refl _
    · exact length_readFurther _ _ _

/-- All pieces of a sequence of bytes. -/
def pieces : List UInt8 → List (Option Char)
  | [] => []
  | byte :: bytes => (readPiece byte bytes).1 :: pieces (readPiece byte bytes).2
termination_by bytes => bytes.length
decreasing_by exact Nat.lt_succ_of_le (length_readPiece byte bytes)

/-- The text of bytes that are well formed. -/
def decode? (bytes : List UInt8) : Option String :=
  ((pieces bytes).mapM id).map String.ofList

/-- The text of any bytes, with a replacement character for every unreadable piece. -/
def decodeLossy (bytes : List UInt8) : String :=
  String.ofList ((pieces bytes).map fun piece => piece.getD '\ufffd')

end Statechart.Text
