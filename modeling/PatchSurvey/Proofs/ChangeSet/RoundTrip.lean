import PatchSurvey.Proofs.ChangeSet.Parts
import PatchSurvey.Proofs.Text.Visible

/-! # Cutting undoes joining

Pieces that begin with their only boundary line are cut apart again where they are
joined, and what is cut off a change set is such a piece. So cutting and joining are
inverse to each other, up to the lines before the first boundary. -/

namespace PatchSurvey

namespace ChangeSet

/-- Whole lines without a boundary mark add no section to what follows them. -/
theorem sections_append_of_ended {lead : Text}
    (inner : ∀ line ∈ Text.lines lead, Hunk.isBoundary line = false) (ended : lead.Ended)
    (rest : Text) : sections (lead ++ rest) = sections rest := by
  obtain ⟨rows, unbroken, rfl⟩ := ended.exists_unlines_eq
  rw [Text.lines_unlines unbroken] at inner
  exact sections_unlines_append unbroken (List.forall_mem_append.1 inner).1 rest

/-! ## Joining what was cut -/

/-- The first line of a section is its only boundary line. -/
theorem isSection_lines_of_mem_sections {diff part : Text} (mem : part ∈ sections diff) :
    IsSection (Text.lines part) := by
  -- a section goes on with what stands before the next boundary, so both are cut at once
  have both (diff : Text) :
      (∀ line ∈ Text.lines (preamble diff), Hunk.isBoundary line = false) ∧
        ∀ part ∈ sections diff, IsSection (Text.lines part) := by
    induction diff using Text.line_induction with
    | last line plain =>
        rw [preamble_line plain, sections_line plain]
        cases boundary : Hunk.isBoundary line with
        | true =>
            rw [if_pos rfl, if_pos rfl]
            refine ⟨by decide, List.forall_mem_singleton.2 ?_⟩
            rw [Text.lines_of_not_mem plain]
            exact .intro boundary (by simp) (List.forall_mem_singleton.2 plain)
        | false =>
            rw [if_neg Bool.false_ne_true, if_neg Bool.false_ne_true, Text.lines_of_not_mem plain]
            exact ⟨List.forall_mem_singleton.2 boundary, by simp⟩
    | cons line rest plain ih =>
        obtain ⟨inner, parts⟩ := ih
        have longer := Text.lines_line_append plain (preamble rest)
        cases boundary : Hunk.isBoundary line with
        | true =>
            rw [preamble_line_append_of_boundary plain rest boundary,
              sections_line_append_of_boundary plain rest boundary]
            refine ⟨by decide, List.forall_mem_cons.2 ⟨?_, parts⟩⟩
            have unbroken : ∀ row ∈ Text.lines (line ++ '\n' :: preamble rest), '\n' ∉ row :=
              fun _ => Text.newline_not_mem_of_mem_lines
            rw [longer] at unbroken ⊢
            exact .intro boundary inner unbroken
        | false =>
            rw [preamble_line_append plain rest boundary, sections_line_append plain rest boundary,
              longer]
            exact ⟨List.forall_mem_cons.2 ⟨boundary, inner⟩, parts⟩
  exact (both diff).2 part mem

/-- There is one section for each boundary line. -/
theorem length_sections (diff : Text) :
    (sections diff).length = (Text.lines diff).countP Hunk.isBoundary := by
  induction diff using Text.line_induction with
  | last line plain =>
      rw [sections_line plain, Text.lines_of_not_mem plain]
      cases boundary : Hunk.isBoundary line <;> simp [boundary]
  | cons line rest plain ih =>
      rw [Text.lines_line_append plain, List.countP_cons]
      cases boundary : Hunk.isBoundary line with
      | true =>
          rw [sections_line_append_of_boundary plain rest boundary, List.length_cons, ih, if_pos rfl]
      | false =>
          rw [sections_line_append plain rest boundary, ih, if_neg Bool.false_ne_true, Nat.add_zero]

/-- A section that is cut once more stays whole. -/
theorem filePatches_of_isSection {patch : Text} (part : IsSection (Text.lines patch)) :
    filePatches patch = [patch] := by
  have alone := (preamble_and_sections_of_isSection part).2
  have some : sections patch ≠ [] := by
    rw [alone]
    exact List.cons_ne_nil _ _
  rw [filePatches_eq_sections (sections_ne_nil_iff.1 some), alone]

/-- A text without a boundary line is one patch, unless it is blank. -/
theorem filePatches_of_no_boundary {diff : Text}
    (inner : ∀ line ∈ Text.lines diff, Hunk.isBoundary line = false) :
    filePatches diff = if diff.all Text.isBlank then [] else [diff] := by
  have none := sections_eq_nil inner
  rw [sections] at none
  rw [filePatches, none]

/-- Pieces that are joined behind any lines are the patches of the whole. The patches of a change
set are the text from its first boundary line on, one for each such line, and none of them is cut
any further. Without a boundary line the text itself is the only patch, unless it is blank. -/
theorem filePatches_join_and_join_filePatches :
    (∀ {lead : Text} {pieces : List Text},
      (∀ line ∈ Text.lines lead, Hunk.isBoundary line = false) → lead.Ended →
      pieces ≠ [] → (∀ piece ∈ pieces, IsSection (Text.lines piece)) →
      (∀ piece ∈ pieces.dropLast, piece.Ended) →
      filePatches (lead ++ pieces.flatten) = pieces) ∧
    (∀ {diff : Text}, (∃ line ∈ Text.lines diff, Hunk.isBoundary line = true) →
      (filePatches diff).flatten = fromFirstBoundary diff ∧
      (filePatches diff).length = (Text.lines diff).countP Hunk.isBoundary ∧
      ∀ part ∈ filePatches diff, filePatches part = [part]) ∧
    ∀ {diff : Text}, (∀ line ∈ Text.lines diff, Hunk.isBoundary line = false) →
      (diff.HasVisible → filePatches diff = [diff]) ∧
      (¬ diff.HasVisible → filePatches diff = []) := by
  refine ⟨?_, ?_, ?_⟩
  · intro lead pieces inner endedLead some parts ended
    have cut : sections (lead ++ pieces.flatten) = pieces :=
      (sections_append_of_ended inner endedLead _).trans
        (preamble_and_sections_flatten parts ended).2
    rw [← cut] at some
    rw [filePatches_eq_sections (sections_ne_nil_iff.1 some), cut]
  · intro diff boundary
    rw [filePatches_eq_sections boundary]
    refine ⟨flatten_sections diff, length_sections diff, fun part mem => ?_⟩
    exact filePatches_of_isSection (isSection_lines_of_mem_sections mem)
  · intro diff inner
    have blank : diff.all Text.isBlank = true ↔ ¬ diff.HasVisible := by
      simp [Text.HasVisible]
    rw [filePatches_of_no_boundary inner]
    exact ⟨fun visible => if_neg (blank.not_left.2 visible), fun none => if_pos (blank.2 none)⟩

/-- A note before a change set. Its boundary mark does not begin a line. -/
def note : Text :=
  "see diff --git a/x b/x\n\r\n".toList

/-- Pieces that hold boundary marks behind a line separator and behind other characters, that are
as short as can be, and that do not end with a line feed. -/
def shortPieces : List Text :=
  ["diff --git a/a b/a\n+diff --git \u2028diff --git a/c b/c\n".toList, "diff --git \n".toList,
    "diff --git a/b b/b\n-b".toList]

/-- Joined behind a note, the pieces are cut apart again, and each stays whole. -/
theorem filePatches_join_shortPieces :
    (∀ line ∈ Text.lines note, Hunk.isBoundary line = false) ∧ note.Ended ∧ shortPieces ≠ [] ∧
      (∀ piece ∈ shortPieces, IsSection (Text.lines piece)) ∧
      (∀ piece ∈ shortPieces.dropLast, piece.Ended) ∧
      filePatches (note ++ shortPieces.flatten) = shortPieces ∧
      (∃ line ∈ Text.lines shortPieces.flatten, Hunk.isBoundary line = true) ∧
      (filePatches shortPieces.flatten).length = 3 ∧
      (∀ part ∈ filePatches shortPieces.flatten, filePatches part = [part]) ∧
      note.HasVisible ∧ filePatches note = [note] ∧
      (∀ line ∈ Text.lines " \n".toList, Hunk.isBoundary line = false) ∧
      ¬ Text.HasVisible " \n".toList ∧ filePatches " \n".toList = [] := by
  have inner : ∀ line ∈ Text.lines note, Hunk.isBoundary line = false := by decide
  have ended : note.Ended := by decide
  have some : shortPieces ≠ [] := by decide
  have parts : ∀ piece ∈ shortPieces, IsSection (Text.lines piece) := by decide +kernel
  have breaks : ∀ piece ∈ shortPieces.dropLast, piece.Ended := by decide
  have boundary : ∃ line ∈ Text.lines shortPieces.flatten, Hunk.isBoundary line = true := by
    decide +kernel
  have visible : note.HasVisible := ⟨'s', by decide, by decide⟩
  have blankInner : ∀ line ∈ Text.lines " \n".toList, Hunk.isBoundary line = false := by decide
  have blank : ¬ Text.HasVisible " \n".toList := by
    have all : ∀ c ∈ " \n".toList, Text.isBlank c = true := List.all_eq_true.1 (by decide)
    rintro ⟨c, mem, seen⟩
    exact absurd (all c mem) (Bool.eq_false_iff.1 seen)
  obtain ⟨join, cut, whole⟩ := filePatches_join_and_join_filePatches
  obtain ⟨-, count, again⟩ := cut boundary
  have three : (Text.lines shortPieces.flatten).countP Hunk.isBoundary = 3 := by decide +kernel
  exact ⟨inner, ended, some, parts, breaks, join inner ended some parts breaks, boundary,
    count.trans three, again, visible, (whole inner).1 visible, blankInner, blank,
    (whole blankInner).2 blank⟩

end ChangeSet

end PatchSurvey
