/-!
# Blank characters: the property White_Space
-/
namespace Statechart.Text

/-- Whether a character has the property White_Space. -/
def isBlank (c : Char) : Bool :=
  (9 ≤ c.toNat && c.toNat ≤ 13) || c.toNat = 0x20 || c.toNat = 0x85 || c.toNat = 0xa0 ||
    c.toNat = 0x1680 || (0x2000 ≤ c.toNat && c.toNat ≤ 0x200a) || c.toNat = 0x2028 ||
    c.toNat = 0x2029 || c.toNat = 0x202f || c.toNat = 0x205f || c.toNat = 0x3000

/-- Whether a text holds blank characters only. -/
def isBlankText (text : String) : Bool := text.toList.all isBlank

/-- A text without the blank characters it begins with. -/
def skipBlank (text : List Char) : List Char := text.dropWhile isBlank

end Statechart.Text
