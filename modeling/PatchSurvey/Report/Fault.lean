import PatchSurvey.Json.Reader
import PatchSurvey.Text.Numeral

/-! # Faults of values

A check of a value either gives a result or all faults that were found, each with
its place. Checks that stand side by side are all made. -/

namespace PatchSurvey

/-- A step into a value. -/
inductive PathStep where
  | key (name : Text)
  | index (place : Nat)
deriving DecidableEq, Repr

/-- What is wrong with a value. -/
inductive Problem where
  | missing
  | notString
  | notList
  | notBool
  | unclearBool
  | notInteger
  | unclearInteger
  | fractionalInteger
  | oversizedInteger
  | infiniteInteger
  | notRecord (name : String)
  | unknownLogLevel (given : Text)
  | notJson
  | tooLong (fault : NumeralTooLong)
  | notObject (kind : ValueKind)
deriving DecidableEq, Repr

namespace Problem

/-- The short name of a problem. -/
def code : Problem → Text
  | missing => "missing".toList
  | notString => "string_type".toList
  | notList => "list_type".toList
  | notBool => "bool_type".toList
  | unclearBool => "bool_parsing".toList
  | notInteger => "int_type".toList
  | unclearInteger => "int_parsing".toList
  | fractionalInteger => "int_from_float".toList
  | oversizedInteger => "int_parsing_size".toList
  | infiniteInteger => "finite_number".toList
  | notRecord _ => "model_type".toList
  | unknownLogLevel _ | notJson | tooLong _ | notObject _ => "value_error".toList

/-- The wording of a problem. -/
def message : Problem → Text
  | missing => "Field required".toList
  | notString => "Input should be a valid string".toList
  | notList => "Input should be a valid list".toList
  | notBool => "Input should be a valid boolean".toList
  | unclearBool => "Input should be a valid boolean, unable to interpret input".toList
  | notInteger => "Input should be a valid integer".toList
  | unclearInteger => "Input should be a valid integer, unable to parse string as an integer".toList
  | fractionalInteger =>
      "Input should be a valid integer, got a number with a fractional part".toList
  | oversizedInteger => "Unable to parse input string as an integer, exceeded maximum size".toList
  | infiniteInteger => "Input should be a finite number".toList
  | notRecord name => "Input should be a valid dictionary or instance of ".toList ++ name.toList
  | unknownLogLevel given => "Value error, Unknown log level '".toList ++ given ++ "'".toList
  | notJson => "JSONDecodeError".toList
  | tooLong fault => "Value error, ".toList ++ fault.message
  | notObject kind => "Value error, Expected a JSON object, got ".toList ++ kind.name

end Problem

/-- A problem at its place. -/
structure Fault where
  place : List PathStep
  problem : Problem
deriving DecidableEq, Repr

/-- The result of a check, or the faults that were found. -/
inductive Checked (α : Type) where
  | valid (value : α)
  | invalid (faults : List Fault)

namespace Checked

variable {α β : Type}

/-- A single problem at the value itself. -/
def fail (problem : Problem) : Checked α :=
  invalid [⟨[], problem⟩]

/-- The same check, one step further in. -/
def under (step : PathStep) : Checked α → Checked α
  | valid value => valid value
  | invalid faults => invalid (faults.map fun fault => { fault with place := step :: fault.place })

/-- Change the result. -/
def map (f : α → β) : Checked α → Checked β
  | valid value => valid (f value)
  | invalid faults => invalid faults

/-- Make two checks; the faults of the first come first. -/
def both (first : Checked (α → β)) (second : Checked α) : Checked β :=
  match first, second with
  | valid f, valid value => valid (f value)
  | valid _, invalid faults => invalid faults
  | invalid faults, valid _ => invalid faults
  | invalid faults, invalid more => invalid (faults ++ more)

/-- Make all checks in order. -/
def all : List (Checked α) → Checked (List α)
  | [] => valid []
  | check :: rest => both (map List.cons check) (all rest)

end Checked

end PatchSurvey
