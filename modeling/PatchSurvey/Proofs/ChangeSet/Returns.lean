import PatchSurvey.Proofs.ChangeSet.Sections
import PatchSurvey.Proofs.Hunk.Walk
import PatchSurvey.Proofs.Text.Returns

/-! # Sections of a change set with carriage returns

A change set whose lines get carriage returns is cut at the same lines, and each
section gets the carriage returns of its own lines. -/

namespace PatchSurvey

open Text

/-- The rows of a text are read without the carriage returns of its lines. -/
theorem Hunk.rows_withReturns {text : Text} (bare : Unreturned text) :
    rows (withReturns text) = rows text := by
  induction text using line_induction with
  | last line plain => rw [withReturns_of_not_mem plain]
  | cons line rest plain ih =>
      rw [Unreturned, lines_line_append plain, List.forall_mem_cons] at bare
      obtain ⟨first, later⟩ := bare
      rw [withReturns_line_append plain, rows_line_append (newline_not_mem_append_return plain),
        rows_line_append plain, dropReturn_append_return, dropReturn_of_getLast?_ne first, ih later]

namespace ChangeSet

theorem isBoundary_append_return (line : Text) :
    Hunk.isBoundary (line ++ ['\r']) = Hunk.isBoundary line :=
  startsWith_concat (by decide) line

/-- The text is cut before the same lines. -/
theorem preamble_and_sections_withReturns (diff : Text) :
    preamble (withReturns diff) = withReturns (preamble diff) ∧
      sections (withReturns diff) = (sections diff).map withReturns := by
  induction diff using line_induction with
  | last line plain =>
      have kept := withReturns_of_not_mem plain
      rw [kept, preamble_line plain, sections_line plain]
      cases Hunk.isBoundary line with
      | true => exact ⟨rfl, congrArg (· :: []) kept.symm⟩
      | false => exact ⟨kept.symm, rfl⟩
  | cons line rest plain ih =>
      obtain ⟨before, parts⟩ := ih
      have returned := newline_not_mem_append_return plain
      have mark := isBoundary_append_return line
      rw [withReturns_line_append plain]
      cases boundary : Hunk.isBoundary line with
      | true =>
          rw [boundary] at mark
          rw [preamble_line_append_of_boundary returned _ mark,
            sections_line_append_of_boundary returned _ mark,
            preamble_line_append_of_boundary plain rest boundary,
            sections_line_append_of_boundary plain rest boundary, before, parts, List.map_cons,
            withReturns_line_append plain]
          exact ⟨rfl, rfl⟩
      | false =>
          rw [boundary] at mark
          rw [preamble_line_append returned _ mark, sections_line_append returned _ mark,
            preamble_line_append plain rest boundary, sections_line_append plain rest boundary,
            before, parts, withReturns_line_append plain]
          exact ⟨rfl, rfl⟩

/-- A change set has its sections as patches, or it is one patch itself, or it is blank. -/
theorem filePatches_eq (diff : Text) : filePatches diff =
    if diff.all isBlank then [] else match sections diff with
      | [] => [diff]
      | parts => parts := rfl

/-- The patches of the single files get the carriage returns of their lines. -/
theorem filePatches_withReturns (diff : Text) :
    filePatches (withReturns diff) = (filePatches diff).map withReturns := by
  rw [filePatches_eq, filePatches_eq, all_isBlank_withReturns,
    (preamble_and_sections_withReturns diff).2]
  cases diff.all isBlank with
  | true => rfl
  | false => cases sections diff <;> rfl

theorem eq_or_mem_sections_of_mem_filePatches {diff part : Text}
    (mem : part ∈ filePatches diff) : part = diff ∨ part ∈ sections diff := by
  rw [filePatches_eq] at mem
  split at mem
  · cases mem
  · split at mem
    · exact Or.inl (List.mem_singleton.1 mem)
    · exact Or.inr mem

/-- The patches of the single files have no lines but those of the change set. -/
theorem unreturned_of_mem_filePatches {diff part : Text} (bare : Unreturned diff)
    (mem : part ∈ filePatches diff) : Unreturned part := by
  rcases eq_or_mem_sections_of_mem_filePatches mem with rfl | mem
  · exact bare
  · intro line found
    rcases mem_lines_of_mem_sections mem found with found | rfl
    · exact bare line found
    · simp

end ChangeSet

end PatchSurvey
