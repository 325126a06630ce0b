import PatchSurvey.Dictionary
import PatchSurvey.Json.Decimal

/-! # JSON values

Members of an object keep their order. Numbers with a fraction or an exponent
are kept apart from integers, as are the three numbers beyond JSON. -/

namespace PatchSurvey

/-- A JSON value. -/
inductive Json where
  | null
  | bool (value : Bool)
  | integer (value : Int)
  | decimal (value : Decimal)
  | infinite (negative : Bool)
  | notANumber
  | string (value : Text)
  | array (items : List Json)
  | object (members : List (Text × Json))

/-- The kinds of values that are told apart in messages. -/
inductive ValueKind where
  | null
  | bool
  | integer
  | float
  | string
  | list
  | object
deriving DecidableEq, Repr

/-- The name of a kind in messages. -/
def ValueKind.name : ValueKind → Text
  | null => "NoneType".toList
  | bool => "bool".toList
  | integer => "int".toList
  | float => "float".toList
  | string => "str".toList
  | list => "list".toList
  | object => "dict".toList

namespace Json

/-- The kind of a value. -/
def kind : Json → ValueKind
  | null => .null
  | bool _ => .bool
  | integer _ => .integer
  | decimal _ | infinite _ | notANumber => .float
  | string _ => .string
  | array _ => .list
  | object _ => .object

/-- A string value. -/
def text (value : String) : Json :=
  string value.toList

/-- The members of an object; none of another value. -/
def members : Json → Dictionary Json
  | object members => members
  | _ => []

/-- The value of a member. -/
def get? (key : String) (value : Json) : Option Json :=
  Dictionary.get? key.toList value.members

end Json

end PatchSurvey
