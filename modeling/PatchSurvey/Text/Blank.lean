import PatchSurvey.Text.CodeTable

/-! # Blank characters

The white space of the Unicode standard, version 14, together with the four
information separators. One set serves trimming and patterns alike. White space
alone, without the separators, stands around written integers. -/

namespace PatchSurvey.Text

/-- Intervals of blank code points beyond ASCII. -/
def blankTable : Array (Nat × Nat) := #[
  (0x85, 0x85), (0xA0, 0xA0), (0x1680, 0x1680), (0x2000, 0x200A), (0x2028, 0x2029),
   (0x202F, 0x202F), (0x205F, 0x205F), (0x3000, 0x3000)]

/-- White space, or an information separator. -/
def isBlank (c : Char) : Bool :=
  if c.toNat < 0x80 then
    c == ' ' || (0x09 ≤ c.toNat && c.toNat ≤ 0x0D) || (0x1C ≤ c.toNat && c.toNat ≤ 0x1F)
  else listed blankTable c

/-- One of the four information separators. -/
def isSeparator (c : Char) : Bool :=
  0x1C ≤ c.toNat && c.toNat ≤ 0x1F

/-- White space. -/
def isSpace (c : Char) : Bool :=
  isBlank c && !isSeparator c

end PatchSurvey.Text
