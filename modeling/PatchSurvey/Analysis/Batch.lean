import PatchSurvey.Analysis.Patch
import PatchSurvey.ChangeSet.BoundaryPath
import PatchSurvey.ChangeSet.Sections

/-! # Analyzing many files

Every file of a batch gets an analysis or is skipped with a reason, whatever
happens to the others. -/

namespace PatchSurvey

/-- A changed file with its patch. -/
structure FilePatch where
  filename : Text
  patch : PatchInput
  status : Text

/-- A file without an analysis. -/
structure SkippedFile where
  filename : Text
  reason : Text
  status : Text
deriving DecidableEq, Repr

/-- The analyses of a batch and the files without one, each in input order. -/
structure BatchReport where
  results : List Analysis
  skipped : List SkippedFile
deriving DecidableEq, Repr

/-- Why a file is skipped. -/
def AnalysisError.reason : AnalysisError → Text
  | notText typeName => (notText typeName).message
  | numeralTooLong fault => "ValueError: ".toList ++ fault.message

namespace BatchReport

/-- The names of the files with new functions. -/
def filesWithNewFunctions (report : BatchReport) : List Text :=
  (report.results.filter (·.functions.isSome)).map (·.displayName "<unknown>")

/-- The names of the test files. -/
def testFiles (report : BatchReport) : List Text :=
  (report.results.filter (·.isTestFile)).map (·.displayName "<unknown>")

/-- The outcome of one file. -/
def outcome (aliases : Path.Aliases) (file : FilePatch) :
    Logged (Except SkippedFile Analysis) :=
  match Analysis.ofPatch aliases file.patch (some file.filename) with
  | .ok analysis => analysis.map .ok
  | .error error =>
      let event : Event := match error with
        | .notText _ => .skipped file.filename file.status error.message
        | .numeralTooLong _ => .failed file.filename file.status
      ⟨.error ⟨file.filename, error.reason, file.status⟩, [event]⟩

/-- The report of some outcomes. -/
def ofOutcomes (outcomes : List (Except SkippedFile Analysis)) : BatchReport where
  results := outcomes.filterMap fun
    | .ok analysis => some analysis
    | .error _ => none
  skipped := outcomes.filterMap fun
    | .ok _ => none
    | .error skipped => some skipped

/-- The report of some files. -/
def ofFiles (aliases : Path.Aliases) (files : List FilePatch) : Logged BatchReport :=
  let outcomes := Logged.gather (files.map (outcome aliases))
  let report := ofOutcomes outcomes.value
  ⟨report, outcomes.events ++ [.batchFinished report.results.length report.skipped.length]⟩

/-- The file of a section, given its place from one on. -/
def fileOfSection (patch : Text) (place : Nat) : FilePatch where
  filename := (ChangeSet.boundaryPath? patch).getD
    ("<patch ".toList ++ Text.ofNat place ++ ">".toList)
  patch := .text patch
  status := "modified".toList

/-- The files of a change set. -/
def filesOfDiff (diff : Text) : List FilePatch :=
  let patches := ChangeSet.filePatches diff
  List.zipWith fileOfSection patches (List.range' 1 patches.length)

/-- The report of a change set. -/
def ofDiff (aliases : Path.Aliases) (diff : Text) : Logged BatchReport :=
  ofFiles aliases (filesOfDiff diff)

end BatchReport

end PatchSurvey
