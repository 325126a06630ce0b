import PatchSurvey.Proofs.ChangeSet.Sections
import PatchSurvey.Proofs.Hunk.Readable

/-! # The changes of the sections

A walk over a change set records what the walks over its sections record, in
order. The line feed before a boundary gives a section one more empty line than
it has in the whole, and an empty line behind everything is never recorded. -/

namespace PatchSurvey.ChangeSet

open Hunk

variable (side : Side)

/-- Cutting a change set cuts every walk over it, wherever the cursor stands before. -/
theorem walk_rows_eq (cursor : Cursor) (diff : Text) :
    walk side cursor (rows diff) = do
      let first ← walk side cursor (rows (preamble diff))
      let others ← (sections diff).mapM (changes side)
      return first ++ others.flatten := by
  -- for every cursor, as the lines of a preamble may leave any
  induction diff using Text.line_induction generalizing cursor with
  | last line plain =>
      cases boundary : isBoundary line with
      | true =>
          have resets : Resets (Text.dropReturn line) := resets_dropReturn.2 (Or.inr boundary)
          rw [preamble_line plain, sections_line plain, boundary, if_pos rfl, if_pos rfl, rows_nil,
            walk_empty_line, rows_line plain, walk_cons_of_resets resets cursor .outside,
            ← rows_line plain, ← changes_eq_walk]
          simp
      | false =>
          rw [preamble_line plain, sections_line plain, boundary]
          simp
  | cons line rest plain ih =>
      cases boundary : isBoundary line with
      | true =>
          have alone (after : Text) (cursor : Cursor) :
              walk side cursor (rows (line ++ '\n' :: after)) =
                walk side .outside (rows after) := by
            rw [rows_line_append plain,
              walk_cons_of_boundary ((isBoundary_dropReturn line).trans boundary)]
          rw [preamble_line_append_of_boundary plain rest boundary,
            sections_line_append_of_boundary plain rest boundary, rows_nil, walk_empty_line,
            alone, ih, List.mapM_cons, changes_eq_walk, alone]
          simp
      | false =>
          rw [preamble_line_append plain rest boundary, sections_line_append plain rest boundary,
            rows_line_append plain, rows_line_append plain, walk, walk]
          simp [ih]

/-- The changes from the first boundary line on are those of the sections, and the first section
that fails decides how the whole fails. -/
theorem changes_fromFirstBoundary (diff : Text) :
    changes side (fromFirstBoundary diff) =
      List.flatten <$> (sections diff).mapM (changes side) := by
  rw [changes_eq_walk, walk_rows_eq, preamble_fromFirstBoundary, sections_fromFirstBoundary,
    rows_nil, walk_empty_line]
  simp

end PatchSurvey.ChangeSet
