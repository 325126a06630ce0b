import PatchSurvey.Report.Fault
import PatchSurvey.Report.WrittenInteger

/-! # Checks of single values

Truth values and integers are taken from other values where nothing is lost: the
words of everyday use, zero and one, and numbers without a fraction. -/

namespace PatchSurvey.Json

/-- A string. -/
def checkString : Json → Checked Text
  | string value => .valid value
  | _ => .fail .notString

/-- A string or null. -/
def checkOptionalString : Json → Checked (Option Text)
  | null => .valid none
  | value => value.checkString.map some

/-- Words for a truth value. -/
def truthWords : List (String × Bool) :=
  [("0", false), ("off", false), ("f", false), ("false", false), ("n", false), ("no", false),
    ("1", true), ("on", true), ("t", true), ("true", true), ("y", true), ("yes", true)]

/-- The truth value of zero and one. -/
def truthOf (n : Int) : Checked Bool :=
  if n = 0 then .valid false else if n = 1 then .valid true else .fail .unclearBool

/-- The integer that a number stands for, if its size is below that of the least
integer of 64 bits. -/
def smallIntegral? (value : Decimal) : Option Int :=
  value.integral?.filter fun n => n.natAbs < 0x8000000000000000

/-- The integer fits into 64 bits. -/
def isSmall (n : Int) : Bool :=
  -0x8000000000000000 ≤ n && n < 0x8000000000000000

/-- A truth value, or what clearly stands for one. -/
def checkBool : Json → Checked Bool
  | bool value => .valid value
  | integer n => if isSmall n then truthOf n else .fail .notBool
  | decimal value =>
      match smallIntegral? value with
      | some n => truthOf n
      | none => .fail .notBool
  | string word =>
      match truthWords.find? (·.1.toList = word.map Char.toLower) with
      | some (_, value) => .valid value
      | none => .fail .unclearBool
  | _ => .fail .notBool

/-- An integer, or what stands for one without loss. -/
def checkInteger : Json → Checked Int
  | integer n => .valid n
  | bool value => .valid (if value then 1 else 0)
  | decimal value =>
      if value.isHuge then .fail .infiniteInteger
      else match value.integral?, smallIntegral? value with
        | _, some n => .valid n
        | some _, none => .fail .oversizedInteger
        | none, none => .fail .fractionalInteger
  | string text =>
      match WrittenInteger.read text with
      | .ok n => .valid n
      | .error .unclear => .fail .unclearInteger
      | .error .oversized => .fail .oversizedInteger
  | infinite _ | notANumber => .fail .infiniteInteger
  | _ => .fail .notInteger

/-- A list whose items all pass a check. -/
def checkList {α : Type} (check : Json → Checked α) : Json → Checked (List α)
  | array items =>
      .all ((items.zip (List.range items.length)).map fun (item, place) =>
        (check item).under (.index place))
  | _ => .fail .notList

end PatchSurvey.Json
