import PatchSurvey.Signal.FunctionTable
import PatchSurvey.Signal.ImportTable
import PatchSurvey.Signal.TestTable

/-! # Checks

The three checks that every added line goes through. -/

namespace PatchSurvey

/-- A structural signal that is looked for. -/
inductive Check where
  | functions
  | imports
  | tests
deriving DecidableEq, Repr

namespace Check

/-- All checks in their order. -/
def all : List Check :=
  [functions, imports, tests]

/-- The name of a check in logs and summaries. -/
def name : Check → Text
  | functions => "functions".toList
  | imports => "imports".toList
  | tests => "test_declarations".toList

/-- The line carries the signal. -/
def accepts (check : Check) (language : Language) (line : Text) : Bool :=
  match check with
  | functions => (language.headerForm? line).isSome
  | imports => language.isImport line
  | tests => language.isTestDeclaration line

end Check

end PatchSurvey
