import PatchSurvey.Hunk.Cursor

/-! # Walking a patch

A walk reads the physical lines of a patch for one side. A hunk header sets the
cursor anew, a file boundary takes it outside, and lines outside every hunk are
skipped. Only a hunk number that is too long stops a walk. -/

namespace PatchSurvey.Hunk

/-- Move the cursor over one physical line, recording what the side asks for. -/
def visit (side : Side) (cursor : Cursor) (line : Text) :
    Except NumeralTooLong (Option ChangedLine × Cursor) :=
  match HeaderText.read? line with
  | some written => written.promise.map fun header => (none, .start header)
  | none =>
      if isBoundary line then .ok (none, .outside)
      else match cursor with
        | .outside => .ok (none, .outside)
        | .inside .. => .ok (cursor.read side line)

/-- The changed lines of one side among the given lines. -/
def walk (side : Side) : Cursor → List Text → Except NumeralTooLong (List ChangedLine)
  | _, [] => .ok []
  | cursor, line :: rest => do
      let (recorded, next) ← visit side cursor line
      return recorded.toList ++ (← walk side next rest)

/-- The changed lines of one side of a patch. A carriage return before a line feed is not
part of the line. -/
def changes (side : Side) (patch : Text) : Except NumeralTooLong (List ChangedLine) :=
  walk side .outside ((Text.lines patch).map Text.dropReturn)

end PatchSurvey.Hunk
