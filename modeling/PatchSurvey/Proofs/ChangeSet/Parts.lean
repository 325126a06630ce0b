import PatchSurvey.Proofs.ChangeSet.Sections

/-! # Change sets put together from sections

Sections that are written behind each other are cut apart again, whatever lines
without a boundary mark stand before them. -/

namespace PatchSurvey.ChangeSet

/-- Lines of which exactly the first is a boundary. -/
inductive IsSection : List Text → Prop
  | intro {first : Text} {others : List Text} (boundary : Hunk.isBoundary first = true)
      (inner : ∀ row ∈ others, Hunk.isBoundary row = false)
      (unbroken : ∀ row ∈ first :: others, '\n' ∉ row) : IsSection (first :: others)

theorem IsSection.newline_not_mem {rows : List Text} (part : IsSection rows) :
    ∀ row ∈ rows, '\n' ∉ row := by
  cases part with
  | intro _ _ unbroken => exact unbroken

instance (rows : List Text) : Decidable (IsSection rows) :=
  match rows with
  | [] => .isFalse nofun
  | first :: others =>
      decidable_of_iff (Hunk.isBoundary first = true ∧
          (∀ row ∈ others, Hunk.isBoundary row = false) ∧ ∀ row ∈ first :: others, '\n' ∉ row)
        ⟨fun ⟨boundary, inner, unbroken⟩ => .intro boundary inner unbroken,
          fun | .intro boundary inner unbroken => ⟨boundary, inner, unbroken⟩⟩

/-- Lines that begin no section go on with the one before them. -/
theorem IsSection.append {rows more : List Text} (part : IsSection rows)
    (inner : ∀ row ∈ more, Hunk.isBoundary row = false) (unbroken : ∀ row ∈ more, '\n' ∉ row) :
    IsSection (rows ++ more) := by
  cases part with
  | intro boundary others plain =>
      exact .intro boundary (List.forall_mem_append.2 ⟨others, inner⟩)
        (List.forall_mem_append.2 ⟨plain, unbroken⟩)

/-- An empty line behind a section is none of its own. -/
theorem IsSection.of_append_nil {rows : List Text} (part : IsSection (rows ++ [[]])) :
    IsSection rows := by
  cases rows with
  | nil =>
      cases part with
      | intro boundary => exact absurd boundary (by decide)
  | cons first others =>
      cases part with
      | intro boundary inner unbroken =>
          exact .intro boundary (List.forall_mem_append.1 inner).1
            (List.forall_mem_append.1 unbroken).1

section

variable {rows : List Text} (unbroken : ∀ row ∈ rows, '\n' ∉ row)
  (inner : ∀ row ∈ rows, Hunk.isBoundary row = false) (rest : Text)
include unbroken inner

theorem preamble_unlines_append :
    preamble (Text.unlines rows ++ rest) = Text.unlines rows ++ preamble rest := by
  induction rows with
  | nil => rfl
  | cons row rows ih =>
      obtain ⟨plain, unbroken⟩ := List.forall_mem_cons.1 unbroken
      obtain ⟨other, inner⟩ := List.forall_mem_cons.1 inner
      rw [Text.unlines_cons_append, Text.unlines_cons_append, preamble_line_append plain _ other,
        ih unbroken inner]

theorem sections_unlines_append : sections (Text.unlines rows ++ rest) = sections rest := by
  induction rows with
  | nil => rfl
  | cons row rows ih =>
      obtain ⟨plain, unbroken⟩ := List.forall_mem_cons.1 unbroken
      obtain ⟨other, inner⟩ := List.forall_mem_cons.1 inner
      rw [Text.unlines_cons_append, sections_line_append plain _ other, ih unbroken inner]

end

/-- A section begins a new part, so nothing of it belongs to what stands before. -/
theorem preamble_section_append {rows : List Text} (part : IsSection rows) (rest : Text) :
    preamble (Text.unlines rows ++ rest) = [] := by
  cases part with
  | @intro first others boundary inner unbroken =>
      obtain ⟨plain, _⟩ := List.forall_mem_cons.1 unbroken
      rw [Text.unlines_cons_append]
      exact preamble_line_append_of_boundary plain _ boundary

theorem sections_section_append {rows : List Text} (part : IsSection rows) (rest : Text) :
    sections (Text.unlines rows ++ rest) =
      (Text.unlines rows ++ preamble rest) :: sections rest := by
  cases part with
  | @intro first others boundary inner unbroken =>
      obtain ⟨plain, unbroken⟩ := List.forall_mem_cons.1 unbroken
      rw [Text.unlines_cons_append, Text.unlines_cons_append,
        sections_line_append_of_boundary plain _ boundary,
        preamble_unlines_append unbroken inner, sections_unlines_append unbroken inner]

/-- A text that begins with a boundary line adds its sections to those of any lines before it. -/
theorem sections_unlines_append_of_preamble {rows : List Text} (unbroken : ∀ row ∈ rows, '\n' ∉ row)
    {rest : Text} (whole : preamble rest = []) :
    preamble (Text.unlines rows ++ rest) = preamble (Text.unlines rows) ∧
      sections (Text.unlines rows ++ rest) = sections (Text.unlines rows) ++ sections rest := by
  induction rows with
  | nil => exact ⟨whole, rfl⟩
  | cons row rows ih =>
      obtain ⟨plain, unbroken⟩ := List.forall_mem_cons.1 unbroken
      obtain ⟨preambles, others⟩ := ih unbroken
      rw [Text.unlines_cons_append, Text.unlines_cons]
      cases boundary : Hunk.isBoundary row with
      | true =>
          rw [preamble_line_append_of_boundary plain _ boundary,
            preamble_line_append_of_boundary plain _ boundary,
            sections_line_append_of_boundary plain _ boundary,
            sections_line_append_of_boundary plain _ boundary, preambles, others]
          exact ⟨rfl, rfl⟩
      | false =>
          rw [preamble_line_append plain _ boundary, preamble_line_append plain _ boundary,
            sections_line_append plain _ boundary, sections_line_append plain _ boundary,
            preambles, others]
          exact ⟨rfl, rfl⟩

section

variable {diff : Text} (inner : ∀ line ∈ Text.lines diff, Hunk.isBoundary line = false)
include inner

theorem sections_eq_nil : sections diff = [] := by
  refine Decidable.byContradiction fun some => ?_
  obtain ⟨line, mem, boundary⟩ := sections_ne_nil_iff.1 some
  exact absurd boundary (Bool.eq_false_iff.1 (inner line mem))

/-- Without a boundary line, all of a text stands before the first one. -/
theorem preamble_eq_self : preamble diff = diff := by
  have whole := preamble_append_fromFirstBoundary diff
  rwa [← flatten_sections, sections_eq_nil inner, List.flatten_nil, List.append_nil] at whole

end

/-- A piece with its boundary line at the start is a section of its own. -/
theorem preamble_and_sections_of_isSection {piece : Text} (part : IsSection (Text.lines piece)) :
    preamble piece = [] ∧ sections piece = [piece] := by
  generalize rows : Text.lines piece = lines at part
  have whole := Text.joinLines_lines piece
  rw [rows] at whole
  cases part with
  | @intro first others boundary inner unbroken =>
      obtain ⟨plain, unbroken⟩ := List.forall_mem_cons.1 unbroken
      by_cases alone : others = []
      · subst alone
        obtain rfl : first = piece := by simpa [Text.joinLines] using whole
        rw [preamble_line plain, sections_line plain, if_pos boundary, if_pos boundary]
        exact ⟨rfl, rfl⟩
      · rw [Text.joinLines_cons first alone] at whole
        rw [← Text.lines_joinLines alone unbroken] at inner
        rw [← whole, preamble_line_append_of_boundary plain _ boundary,
          sections_line_append_of_boundary plain _ boundary, preamble_eq_self inner,
          sections_eq_nil inner]
        exact ⟨rfl, rfl⟩

/-- Joined pieces are cut apart at their boundaries. The last one need not end with a line feed. -/
theorem preamble_and_sections_flatten {pieces : List Text}
    (parts : ∀ piece ∈ pieces, IsSection (Text.lines piece))
    (ended : ∀ piece ∈ pieces.dropLast, piece.Ended) :
    preamble pieces.flatten = [] ∧ sections pieces.flatten = pieces := by
  induction pieces with
  | nil => exact ⟨rfl, rfl⟩
  | cons piece pieces ih =>
      obtain ⟨part, others⟩ := List.forall_mem_cons.1 parts
      by_cases last : pieces = []
      · subst last
        rw [List.flatten_singleton]
        exact preamble_and_sections_of_isSection part
      · rw [List.dropLast_cons_of_ne_nil last, List.forall_mem_cons] at ended
        obtain ⟨rows, unbroken, rfl⟩ := ended.1.exists_unlines_eq
        rw [Text.lines_unlines unbroken] at part
        obtain ⟨whole, cut⟩ := ih others ended.2
        rw [List.flatten_cons, preamble_section_append part.of_append_nil,
          sections_section_append part.of_append_nil, whole, cut, List.append_nil]
        exact ⟨rfl, rfl⟩

/-- Sections that are written line by line are cut apart at their boundaries. -/
theorem sections_flatMap_unlines {α : Type} {rows : α → List Text} {parts : List α}
    (written : ∀ part ∈ parts, IsSection (rows part)) :
    sections (parts.flatMap fun part => Text.unlines (rows part)) =
      parts.map fun part => Text.unlines (rows part) := by
  rw [List.flatMap_def]
  apply (preamble_and_sections_flatten ?_ ?_).2
  · refine List.forall_mem_map.2 fun part mem => ?_
    have part := written part mem
    rw [Text.lines_unlines part.newline_not_mem]
    exact part.append (List.forall_mem_singleton.2 (by decide)) (by simp)
  · intro piece mem
    obtain ⟨part, -, rfl⟩ := List.mem_map.1 ((List.dropLast_prefix _).subset mem)
    exact Text.ended_unlines _

/-- A section behind any lines is the last patch. -/
theorem filePatches_unlines_append {lead rows : List Text} (unbroken : ∀ row ∈ lead, '\n' ∉ row)
    (part : IsSection rows) :
    filePatches (Text.unlines lead ++ Text.unlines rows) =
      sections (Text.unlines lead) ++ [Text.unlines rows] := by
  have begun := preamble_section_append part []
  have alone := sections_section_append part []
  have nothing : preamble [] = [] ∧ sections [] = [] := ⟨rfl, rfl⟩
  rw [nothing.1, nothing.2, List.append_nil] at alone
  rw [List.append_nil] at begun
  have whole := (sections_unlines_append_of_preamble unbroken begun).2
  rw [alone] at whole
  have some : sections (Text.unlines lead ++ Text.unlines rows) ≠ [] := by
    rw [whole]
    exact List.append_ne_nil_of_right_ne_nil _ (List.cons_ne_nil _ _)
  rw [filePatches_eq_sections (sections_ne_nil_iff.1 some), whole]

end PatchSurvey.ChangeSet
