import PatchSurvey.Hunk.Header

/-! # The target path of a patch

The new-side path stands on the first `+++` line between a file boundary, or the
start of the patch, and the next hunk header. A deleted file has none. -/

namespace PatchSurvey.Path

/-- The path on the rest of a `+++` line: up to a tab, without blanks and the side mark. -/
def ofTargetLine (tail : Text) : Option Text :=
  let path := Text.trim (Text.dropMark "b/".toList (Text.trim (tail.takeWhile (· ≠ '\t'))))
  if path = [] ∨ path = "/dev/null".toList then none else some path

/-- Look for the first `+++` line, given whether the lines belong to a file header. -/
def targetAmong? : Bool → List Text → Option Text
  | _, [] => none
  | inHeader, line :: rest =>
      if Hunk.isBoundary line then targetAmong? true rest
      else if (Hunk.HeaderText.read? line).isSome then targetAmong? false rest
      else if inHeader then
        match Text.after? "+++".toList (Text.trim line) with
        | some tail => ofTargetLine tail
        | none => targetAmong? true rest
      else targetAmong? false rest

/-- The new-side path of a patch. -/
def target? (patch : Text) : Option Text :=
  targetAmong? true (Text.lines patch)

end PatchSurvey.Path
