import PatchSurvey.Signal.Matches
import PatchSurvey.Signal.Check

/-! # Analyses

What is known about one patch: its changed lines, its file, and the signals that
its added lines carry. -/

namespace PatchSurvey

/-- The analysis of a patch. -/
structure Analysis where
  added : List ChangedLine
  deleted : List ChangedLine
  filename : Option Text
  language : Text
  isTestFile : Bool
  functions : Matches
  imports : Matches
  tests : Matches
deriving DecidableEq, Repr

namespace Analysis

/-- The matches of a check. -/
def found (analysis : Analysis) : Check → Matches
  | .functions => analysis.functions
  | .imports => analysis.imports
  | .tests => analysis.tests

/-- The checks that have no table for the language. -/
def unsupportedChecks (analysis : Analysis) : List Check :=
  Check.all.filter fun check => !(analysis.found check).supported

/-- Every check has a table for the language. -/
def languageSupported (analysis : Analysis) : Bool :=
  analysis.unsupportedChecks.isEmpty

/-- The filename, or another text where it is missing or empty. -/
def displayName (missing : String) (analysis : Analysis) : Text :=
  match analysis.filename with
  | some (c :: name) => c :: name
  | _ => missing.toList

end Analysis

end PatchSurvey
