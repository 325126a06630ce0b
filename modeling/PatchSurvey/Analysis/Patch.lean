import PatchSurvey.Analysis.Basic
import PatchSurvey.Hunk.Walk
import PatchSurvey.Path.Aliases
import PatchSurvey.Path.Language
import PatchSurvey.Path.TestFile
import PatchSurvey.Signal.Find

/-! # Analyzing a patch

An analysis fails only if the patch is no text or a hunk number is too long.
Aliases decide under which key the tables are looked up, and nothing else. -/

namespace PatchSurvey

/-- What is given as a patch: a text, or a value of another type, given by the name of the type. -/
inductive PatchInput where
  | text (patch : Text)
  | other (typeName : Text)

/-- Why a patch has no analysis. -/
inductive AnalysisError where
  /-- The patch is no text. -/
  | notText (typeName : Text)
  /-- A number of a hunk header is too long. -/
  | numeralTooLong (fault : NumeralTooLong)
deriving DecidableEq, Repr

/-- The wording of a failure. -/
def AnalysisError.message : AnalysisError → Text
  | notText typeName => "Patch must be a str, got ".toList ++ typeName
  | numeralTooLong fault => fault.message

namespace Analysis

/-- The path of a patch: its own target, else a hint that is not empty. -/
def pathOf (patch : Text) (hint : Option Text) : Option Text :=
  match Path.target? patch, hint with
  | some path, _ => some path
  | none, some (c :: name) => some (c :: name)
  | none, _ => none

/-- The language tag of an optional path. -/
def languageOf : Option Text → Text
  | some path => Path.languageOf path
  | none => Path.unknownLanguage

/-- The analysis of changed lines of a file. -/
def ofChanges (aliases : Path.Aliases) (path : Option Text) (added deleted : List ChangedLine) :
    Logged Analysis :=
  let language := languageOf path
  let key := Path.resolve aliases language
  let functions := Check.find .functions key added
  let imports := Check.find .imports key added
  let tests := Check.find .tests key added
  { value := {
      added, deleted, language
      filename := path
      isTestFile := path.any Path.isTestFile
      functions := functions.value
      imports := imports.value
      tests := tests.value }
    events := functions.events ++ imports.events ++ tests.events ++
      [.analyzed path language added.length deleted.length functions.value.size] }

/-- The analysis of a text as a patch. -/
def ofText (aliases : Path.Aliases) (patch : Text) (hint : Option Text) :
    Except NumeralTooLong (Logged Analysis) := do
  let added ← Hunk.changes .added patch
  let deleted ← Hunk.changes .removed patch
  return ofChanges aliases (pathOf patch hint) added deleted

/-- The analysis of a patch, with a filename for a patch that names none. -/
def ofPatch (aliases : Path.Aliases) (patch : PatchInput) (hint : Option Text) :
    Except AnalysisError (Logged Analysis) :=
  match patch with
  | .text patch => (ofText aliases patch hint).mapError .numeralTooLong
  | .other typeName => .error (.notText typeName)

end Analysis

end PatchSurvey
