import PatchSurvey.Analysis.Basic

/-! # Summaries

A summary lists the facts of an analysis line by line between tags. Sections
without entries are left out. There is no summary if the line number of a function
has too many digits to be written. -/

namespace PatchSurvey.Summary

/-- Rows between an opening and a closing tag; nothing where there are no rows. -/
def tagged (tag : String) (rows : List Text) : List Text :=
  if rows.isEmpty then []
  else ('<' :: tag.toList ++ ['>']) :: rows ++ ["</".toList ++ tag.toList ++ ['>']]

/-- An indented entry. -/
def item (entry : Text) : Text :=
  "  ".toList ++ entry

/-- An entry with its line number. -/
def numbered (line : ChangedLine) : Except NumberTooLong Text := do
  let number ← Text.writeInt line.number
  return item ('L' :: number ++ ": ".toList ++ line.content)

/-- The name of a truth value. -/
def truth (value : Bool) : Text :=
  (if value then "true" else "false").toList

/-- The rows about the file. -/
def fileRows (analysis : Analysis) : List Text :=
  [ "filename: ".toList ++ analysis.displayName "unknown",
    "language: ".toList ++ analysis.language,
    "is_test_file: ".toList ++ truth analysis.isTestFile ] ++
  match analysis.unsupportedChecks with
  | [] => []
  | checks =>
      ["unsupported_checks: ".toList ++ Text.joinWith ", ".toList (checks.map (·.name))]

/-- The rows with the numbers of changed lines. -/
def countRows (analysis : Analysis) : List Text :=
  [ "added_lines: ".toList ++ Text.ofNat analysis.added.length,
    "deleted_lines: ".toList ++ Text.ofNat analysis.deleted.length ]

/-- The rows between the outer tags. -/
def bodyRows (analysis : Analysis) : Except NumberTooLong (List Text) := do
  let functions ← analysis.functions.entries.mapM numbered
  return fileRows analysis ++
    tagged "new_functions" functions ++
    tagged "new_imports" (analysis.imports.lines.map item) ++
    tagged "new_test_declarations" (analysis.tests.lines.map item) ++
    countRows analysis

/-- The summary of an analysis. -/
def write (analysis : Analysis) : Except NumberTooLong Text := do
  let rows ← bodyRows analysis
  return Text.joinLines (tagged "file_analysis" rows)

end PatchSurvey.Summary
