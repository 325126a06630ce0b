import PatchSurvey.Text.Basic
import PatchSurvey.Text.CodeTable
import PatchSurvey.Text.PrintableTable

/-! # Quoted texts

A quoted text stands between single quotes, or between double quotes where it
holds a single quote and no double one. Backslashes, the quote itself and
unprintable characters are escaped. -/

namespace PatchSurvey.Text

/-- The last `width` hexadecimal digits of a number, in lower case. -/
def hexDigits : Nat → Nat → Text
  | 0, _ => []
  | width + 1, n => hexDigits width (n / 16) ++ [Nat.digitChar (n % 16)]

/-- The quote that a text needs fewest escapes with. -/
def quoteMark (text : Text) : Char :=
  if text.contains '\'' && !text.contains '"' then '"' else '\''

/-- One character inside the given quotes. -/
def escapeQuoted (quote c : Char) : Text :=
  if c = quote ∨ c = '\\' then ['\\', c]
  else if c = '\t' then ['\\', 't']
  else if c = '\n' then ['\\', 'n']
  else if c = '\r' then ['\\', 'r']
  else if !listed unprintableTable c then [c]
  else if c.toNat < 0x100 then '\\' :: 'x' :: hexDigits 2 c.toNat
  else if c.toNat < 0x10000 then '\\' :: 'u' :: hexDigits 4 c.toNat
  else '\\' :: 'U' :: hexDigits 8 c.toNat

/-- The text between quotes. -/
def quoted (text : Text) : Text :=
  let quote := quoteMark text
  quote :: text.flatMap (escapeQuoted quote) ++ [quote]

end PatchSurvey.Text
