import PatchSurvey.Hunk.Header

/-! # The sections of a change set

A change set is cut before each line that begins the section of a file. What
stands before the first such line is dropped; a text without one is a single
patch. -/

namespace PatchSurvey.ChangeSet

/-- The lines of a text, each with the line feed that ends it. -/
def endedLines : Text → List Text
  | [] => []
  | c :: text =>
      if c = '\n' then [c] :: endedLines text
      else match endedLines text with
        | [] => [[c]]
        | line :: rest => (c :: line) :: rest

/-- What stands before the first boundary, and the sections. -/
def cut : List Text → Text × List Text
  | [] => ([], [])
  | line :: rest =>
      let (preamble, sections) := cut rest
      if Hunk.isBoundary line then ([], (line ++ preamble) :: sections)
      else (line ++ preamble, sections)

/-- The patches of the single files, in order. -/
def filePatches (diff : Text) : List Text :=
  if diff.all Text.isBlank then []
  else match (cut (endedLines diff)).2 with
    | [] => [diff]
    | sections => sections

end PatchSurvey.ChangeSet
