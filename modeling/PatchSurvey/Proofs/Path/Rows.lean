import PatchSurvey.ChangeSet.BoundaryPath
import PatchSurvey.Proofs.Path.Lockstep
import PatchSurvey.Proofs.Text.Returns

/-! # Paths of the rows of a patch

The search for a target reads the lines of a patch as they are, and a walk reads
them without carriage returns. The path that is found is the same for both, so the
rows of a patch decide which file it belongs to. -/

namespace PatchSurvey

open Hunk

namespace Path

theorem headerAfter_dropReturn (inHeader : Bool) (line : Text) :
    headerAfter inHeader (Text.dropReturn line) = headerAfter inHeader line := by
  simp only [headerAfter, isBoundary_dropReturn, HeaderText.read?_dropReturn]

theorem found?_dropReturn (inHeader : Bool) (line : Text) :
    found? inHeader (Text.dropReturn line) = found? inHeader line := by
  simp only [found?, resets_dropReturn, Text.trim_dropReturn]

/-- A search passes over carriage returns at the ends of lines. -/
theorem targetAmong?_map_dropReturn (inHeader : Bool) (lines : List Text) :
    targetAmong? inHeader (lines.map Text.dropReturn) = targetAmong? inHeader lines := by
  induction lines generalizing inHeader with
  | nil => rfl
  | cons line lines ih =>
      rw [List.map_cons, targetAmong?_cons, targetAmong?_cons, found?_dropReturn,
        headerAfter_dropReturn, ih]

theorem target?_eq_targetAmong?_rows (patch : Text) :
    target? patch = targetAmong? true (rows patch) :=
  (targetAmong?_map_dropReturn true (Text.lines patch)).symm

end Path

/-- The first row is what stands before the first line feed, without a carriage return. -/
theorem head?_rows (patch : Text) :
    (rows patch).head? = some (Text.dropReturn (patch.takeWhile (· ≠ '\n'))) := by
  induction patch using Text.line_induction with
  | last line plain =>
      have stop : ∀ c ∈ ([] : Text).head?, c = '\n' := by simp
      have whole := Text.takeWhile_ne_append plain stop
      rw [List.append_nil] at whole
      rw [rows_line plain, whole, List.head?_cons]
  | cons line rest plain _ =>
      rw [rows_line_append plain, Text.takeWhile_ne_append plain (by simp), List.head?_cons]

theorem ChangeSet.boundaryPath?_eq_of_rows_eq {first second : Text}
    (same : rows first = rows second) : boundaryPath? first = boundaryPath? second := by
  have heads := congrArg List.head? same
  rw [head?_rows, head?_rows] at heads
  rw [boundaryPath?, boundaryPath?, Option.some.inj heads]

end PatchSurvey
