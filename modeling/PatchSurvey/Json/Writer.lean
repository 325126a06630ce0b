import PatchSurvey.Json.Basic
import PatchSurvey.Text.Numeral
import PatchSurvey.Text.Quoted

/-! # Writing JSON

A value is written on one line without spaces, or with every item on a line of
its own, indented by its depth. Only quotes, backslashes and control characters
are escaped. -/

namespace PatchSurvey.Json

/-- One character of a string. -/
def escape (c : Char) : Text :=
  if c = '"' ∨ c = '\\' then ['\\', c]
  else if c.toNat = 0x08 then ['\\', 'b']
  else if c.toNat = 0x09 then ['\\', 't']
  else if c.toNat = 0x0A then ['\\', 'n']
  else if c.toNat = 0x0C then ['\\', 'f']
  else if c.toNat = 0x0D then ['\\', 'r']
  else if c.toNat < 0x20 then '\\' :: 'u' :: Text.hexDigits 4 c.toNat
  else [c]

/-- A string between quotes. -/
def writeString (value : Text) : Text :=
  '"' :: value.flatMap escape ++ ['"']

/-- A number with its exponent. -/
def writeDecimal (value : Decimal) : Text :=
  (if value.negative then ['-'] else []) ++ Text.ofNat value.digits ++
    'e' :: Text.ofInt value.exponent

/-- What separates items: a line feed with the indentation of the depth, if values are indented. -/
def lineBreak (indent : Option Nat) (depth : Nat) : Text :=
  match indent with
  | none => []
  | some width => '\n' :: List.replicate (width * depth) ' '

/-- What separates a key from its value. -/
def keyMark (indent : Option Nat) : Text :=
  if indent.isSome then [':', ' '] else [':']

mutual

/-- A value that stands at the given depth. -/
def writeAt (indent : Option Nat) (depth : Nat) : Json → Text
  | null => "null".toList
  | bool true => "true".toList
  | bool false => "false".toList
  | integer value => Text.ofInt value
  | decimal value => writeDecimal value
  | infinite negative => (if negative then "-Infinity" else "Infinity").toList
  | notANumber => "NaN".toList
  | string value => writeString value
  | array [] => ['[', ']']
  | array (item :: items) =>
      '[' :: lineBreak indent (depth + 1) ++ writeAt indent (depth + 1) item ++
        writeItems indent (depth + 1) items ++ lineBreak indent depth ++ [']']
  | object [] => ['{', '}']
  | object ((key, value) :: members) =>
      '{' :: lineBreak indent (depth + 1) ++ writeString key ++ keyMark indent ++
        writeAt indent (depth + 1) value ++ writeMembers indent (depth + 1) members ++
        lineBreak indent depth ++ ['}']

/-- The items after the first. -/
def writeItems (indent : Option Nat) (depth : Nat) : List Json → Text
  | [] => []
  | item :: items =>
      ',' :: lineBreak indent depth ++ writeAt indent depth item ++ writeItems indent depth items

/-- The members after the first. -/
def writeMembers (indent : Option Nat) (depth : Nat) : List (Text × Json) → Text
  | [] => []
  | (key, value) :: members =>
      ',' :: lineBreak indent depth ++ writeString key ++ keyMark indent ++
        writeAt indent depth value ++ writeMembers indent depth members

end

/-- A value as text, indented by a width or on one line. -/
def write (indent : Option Nat) (value : Json) : Text :=
  writeAt indent 0 value

mutual

/-- An integer in the value has more digits than are written. -/
def hasOverlong : Json → Bool
  | integer value => Text.isOverlong value
  | array items => anyOverlong items
  | object members => anyMemberOverlong members
  | _ => false

/-- One of the items has such an integer. -/
def anyOverlong : List Json → Bool
  | [] => false
  | item :: items => hasOverlong item || anyOverlong items

/-- One of the members has such an integer. -/
def anyMemberOverlong : List (Text × Json) → Bool
  | [] => false
  | (_, value) :: members => hasOverlong value || anyMemberOverlong members

end

end PatchSurvey.Json
