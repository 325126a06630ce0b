import PatchSurvey.Text.Blank
import PatchSurvey.Text.WordTable

/-! # Word characters

Names of program elements are rows of word characters. Blanks are never word
characters, so a name ends where a blank begins. -/

namespace PatchSurvey.Text

/-- A letter, a number or the low line. -/
def isWord (c : Char) : Bool :=
  if c.toNat < 0x80 then c.isAlphanum || c == '_' else listed wordTable c

end PatchSurvey.Text
