import PatchSurvey.ChangeSet.Sections
import PatchSurvey.Proofs.Text.Lines

/-! # Cutting a change set line by line

The sections of a change set are given by its first line and the sections of
what follows. Put together they are the text from its first boundary line on,
and that text has the same sections. -/

namespace PatchSurvey.ChangeSet

/-- What stands before the first boundary line. -/
def preamble (diff : Text) : Text :=
  (cut (endedLines diff)).1

/-- The sections, each from its boundary line on. -/
def sections (diff : Text) : List Text :=
  (cut (endedLines diff)).2

/-- The text from its first boundary line on; nothing where there is none. -/
def fromFirstBoundary (diff : Text) : Text :=
  Text.joinLines ((Text.lines diff).dropWhile fun line => !Hunk.isBoundary line)

theorem endedLines_line_append {line : Text} (plain : '\n' ∉ line) (rest : Text) :
    endedLines (line ++ '\n' :: rest) = (line ++ ['\n']) :: endedLines rest := by
  induction line with
  | nil => rw [List.nil_append, endedLines, if_pos rfl, List.nil_append]
  | cons c line ih =>
      simp only [List.mem_cons, not_or] at plain
      rw [List.cons_append, endedLines, if_neg (Ne.symm plain.1), ih plain.2]
      rfl

theorem endedLines_of_not_mem {line : Text} (plain : '\n' ∉ line) :
    endedLines line = if line = [] then [] else [line] := by
  induction line with
  | nil => rfl
  | cons c line ih =>
      simp only [List.mem_cons, not_or] at plain
      rw [endedLines, if_neg (Ne.symm plain.1), ih plain.2, if_neg (List.cons_ne_nil c line)]
      by_cases empty : line = []
      · rw [if_pos empty, empty]
      · rw [if_neg empty]

/-- The line feed that ends a line does not matter to its boundary mark. -/
theorem isBoundary_append_newline (line : Text) :
    Hunk.isBoundary (line ++ ['\n']) = Hunk.isBoundary line :=
  Text.startsWith_concat (by decide) line

/-! ## One line at a time -/

section

variable {line : Text} (plain : '\n' ∉ line) (rest : Text)
include plain

theorem preamble_line_append_of_boundary (boundary : Hunk.isBoundary line = true) :
    preamble (line ++ '\n' :: rest) = [] := by
  simp only [preamble, endedLines_line_append plain, cut, isBoundary_append_newline, boundary,
    if_true]

theorem sections_line_append_of_boundary (boundary : Hunk.isBoundary line = true) :
    sections (line ++ '\n' :: rest) = (line ++ '\n' :: preamble rest) :: sections rest := by
  simp only [preamble, sections, endedLines_line_append plain, cut, isBoundary_append_newline,
    boundary, if_true, List.append_assoc, List.singleton_append]

theorem fromFirstBoundary_line_append_of_boundary (boundary : Hunk.isBoundary line = true) :
    fromFirstBoundary (line ++ '\n' :: rest) = line ++ '\n' :: rest := by
  rw [fromFirstBoundary, Text.lines_line_append plain,
    List.dropWhile_cons_of_neg (by simp [boundary]), ← Text.lines_line_append plain,
    Text.joinLines_lines]

theorem preamble_line_append (other : Hunk.isBoundary line = false) :
    preamble (line ++ '\n' :: rest) = line ++ '\n' :: preamble rest := by
  simp [preamble, endedLines_line_append plain, cut, isBoundary_append_newline, other]

theorem sections_line_append (other : Hunk.isBoundary line = false) :
    sections (line ++ '\n' :: rest) = sections rest := by
  simp [sections, endedLines_line_append plain, cut, isBoundary_append_newline, other]

theorem fromFirstBoundary_line_append (other : Hunk.isBoundary line = false) :
    fromFirstBoundary (line ++ '\n' :: rest) = fromFirstBoundary rest := by
  rw [fromFirstBoundary, Text.lines_line_append plain,
    List.dropWhile_cons_of_pos (by simp [other]), fromFirstBoundary]

omit rest

theorem preamble_line : preamble line = if Hunk.isBoundary line then [] else line := by
  rw [preamble, endedLines_of_not_mem plain]
  split
  · simp_all [cut]
  · cases boundary : Hunk.isBoundary line <;> simp [cut, boundary]

theorem sections_line : sections line = if Hunk.isBoundary line then [line] else [] := by
  rw [sections, endedLines_of_not_mem plain]
  split
  · rename_i empty
    subst empty
    rfl
  · cases boundary : Hunk.isBoundary line <;> simp [cut, boundary]

theorem fromFirstBoundary_line :
    fromFirstBoundary line = if Hunk.isBoundary line then line else [] := by
  rw [fromFirstBoundary, Text.lines_of_not_mem plain]
  cases boundary : Hunk.isBoundary line <;> simp [boundary, Text.joinLines]

end

/-! ## All lines -/

/-- The text is cut, not changed. -/
theorem preamble_append_fromFirstBoundary (diff : Text) :
    preamble diff ++ fromFirstBoundary diff = diff := by
  induction diff using Text.line_induction with
  | last line plain =>
      rw [preamble_line plain, fromFirstBoundary_line plain]
      split <;> simp
  | cons line rest plain ih =>
      cases boundary : Hunk.isBoundary line with
      | true =>
          rw [preamble_line_append_of_boundary plain rest boundary,
            fromFirstBoundary_line_append_of_boundary plain rest boundary, List.nil_append]
      | false =>
          rw [preamble_line_append plain rest boundary,
            fromFirstBoundary_line_append plain rest boundary, List.append_assoc, List.cons_append,
            ih]

/-- Nothing is lost between the sections. -/
theorem flatten_sections (diff : Text) : (sections diff).flatten = fromFirstBoundary diff := by
  induction diff using Text.line_induction with
  | last line plain =>
      rw [sections_line plain, fromFirstBoundary_line plain]
      split <;> simp
  | cons line rest plain ih =>
      cases boundary : Hunk.isBoundary line with
      | true =>
          rw [sections_line_append_of_boundary plain rest boundary,
            fromFirstBoundary_line_append_of_boundary plain rest boundary, List.flatten_cons, ih,
            List.append_assoc, List.cons_append, preamble_append_fromFirstBoundary]
      | false =>
          rw [sections_line_append plain rest boundary, ih,
            fromFirstBoundary_line_append plain rest boundary]

/-- What stands before the first boundary line is not looked at. -/
theorem sections_fromFirstBoundary (diff : Text) :
    sections (fromFirstBoundary diff) = sections diff := by
  induction diff using Text.line_induction with
  | last line plain =>
      rw [fromFirstBoundary_line plain]
      cases boundary : Hunk.isBoundary line with
      | true => rfl
      | false =>
          rw [sections_line plain, boundary]
          rfl
  | cons line rest plain ih =>
      cases boundary : Hunk.isBoundary line with
      | true => rw [fromFirstBoundary_line_append_of_boundary plain rest boundary]
      | false =>
          rw [fromFirstBoundary_line_append plain rest boundary, ih,
            sections_line_append plain rest boundary]

theorem preamble_fromFirstBoundary (diff : Text) : preamble (fromFirstBoundary diff) = [] := by
  induction diff using Text.line_induction with
  | last line plain =>
      rw [fromFirstBoundary_line plain]
      cases boundary : Hunk.isBoundary line with
      | true => simp [preamble_line plain, boundary]
      | false => rfl
  | cons line rest plain ih =>
      cases boundary : Hunk.isBoundary line with
      | true =>
          rw [fromFirstBoundary_line_append_of_boundary plain rest boundary,
            preamble_line_append_of_boundary plain rest boundary]
      | false => rw [fromFirstBoundary_line_append plain rest boundary, ih]

/-- A section has no lines but those of the change set and an empty one behind its last line
feed. -/
theorem mem_lines_of_mem_sections {diff part line : Text} (mem : part ∈ sections diff)
    (h : line ∈ Text.lines part) : line ∈ Text.lines diff ∨ line = [] := by
  have both (diff : Text) :
      (∀ line ∈ Text.lines (preamble diff), line ∈ Text.lines diff ∨ line = []) ∧
        ∀ part ∈ sections diff, ∀ line ∈ Text.lines part, line ∈ Text.lines diff ∨ line = [] := by
    induction diff using Text.line_induction with
    | last only plain =>
        rw [preamble_line plain, sections_line plain]
        split <;> simp_all [Text.lines]
    | cons first rest plain ih =>
        have later {line : Text} (h : line ∈ Text.lines rest ∨ line = []) :
            line ∈ Text.lines (first ++ '\n' :: rest) ∨ line = [] := by
          rw [Text.lines_line_append plain]
          exact h.imp_left (List.mem_cons_of_mem _)
        have headed {line : Text} (h : line ∈ Text.lines (first ++ '\n' :: preamble rest)) :
            line ∈ Text.lines (first ++ '\n' :: rest) ∨ line = [] := by
          rw [Text.lines_line_append plain] at h
          rcases List.mem_cons.1 h with rfl | h
          · rw [Text.lines_line_append plain]
            exact Or.inl (List.mem_cons_self ..)
          · exact later (ih.1 line h)
        cases boundary : Hunk.isBoundary first with
        | true =>
            rw [preamble_line_append_of_boundary plain rest boundary,
              sections_line_append_of_boundary plain rest boundary]
            refine ⟨by simp [Text.lines], fun part mem line h => ?_⟩
            rcases List.mem_cons.1 mem with rfl | mem
            · exact headed h
            · exact later (ih.2 part mem line h)
        | false =>
            rw [preamble_line_append plain rest boundary, sections_line_append plain rest boundary]
            exact ⟨fun line h => headed h, fun part mem line h => later (ih.2 part mem line h)⟩
  exact (both diff).2 part mem line h

/-- There are sections exactly where there is a boundary line. -/
theorem sections_ne_nil_iff {diff : Text} :
    sections diff ≠ [] ↔ ∃ line ∈ Text.lines diff, Hunk.isBoundary line = true := by
  induction diff using Text.line_induction with
  | last line plain =>
      rw [sections_line plain, Text.lines_of_not_mem plain]
      cases boundary : Hunk.isBoundary line <;> simp [boundary]
  | cons line rest plain ih =>
      rw [Text.lines_line_append plain]
      cases boundary : Hunk.isBoundary line with
      | true =>
          rw [sections_line_append_of_boundary plain rest boundary]
          simp [boundary]
      | false =>
          rw [sections_line_append plain rest boundary, ih]
          simp [boundary]

/-- A change set with a boundary line has exactly its sections as patches. -/
theorem filePatches_eq_sections {diff : Text}
    (boundary : ∃ line ∈ Text.lines diff, Hunk.isBoundary line = true) :
    filePatches diff = sections diff := by
  have some := sections_ne_nil_iff.2 boundary
  obtain ⟨line, mem, boundary⟩ := boundary
  have visible : diff.all Text.isBlank = false := by
    obtain ⟨rest, rfl⟩ := Text.startsWith_iff.1 boundary
    rw [List.all_eq_false]
    exact ⟨'d', Text.mem_of_mem_lines mem (List.mem_append_left _ (by decide)), by decide⟩
  rw [sections] at some ⊢
  rw [filePatches, visible, if_neg Bool.false_ne_true]
  split
  · exact absurd ‹_› some
  · rfl

end PatchSurvey.ChangeSet
