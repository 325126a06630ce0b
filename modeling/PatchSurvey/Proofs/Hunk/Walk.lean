import PatchSurvey.Hunk.Walk
import PatchSurvey.Proofs.Hunk.Header

/-! # Walks in parts

A walk over two rows of lines is a walk over the first, then one over the second
from the cursor that the first has left. A hunk header and a file boundary set
the cursor whatever it was before, so before such a line a walk forgets
everything that it has seen. -/

namespace PatchSurvey.Hunk

variable (side : Side)

/-! ## One line -/

theorem Cursor.inBody_inside {next old new : Nat} :
    (Cursor.inside next old new).inBody = true ↔ 0 < old ∨ 0 < new := by
  simp [Cursor.inBody, Cursor.oldLeft, Cursor.newLeft]

@[simp] theorem Cursor.record?_context (cursor : Cursor) :
    cursor.record? side .context = none := by
  cases side <;> rfl

@[simp] theorem Cursor.record?_ignored (cursor : Cursor) :
    cursor.record? side .ignored = none := by
  cases side <;> rfl

section

variable (cursor : Cursor) {line : Text}

theorem visit_of_header {written : HeaderText} (read : HeaderText.read? line = some written) :
    visit side cursor line = written.promise.map fun header => (none, .start header) := by
  simp only [visit, read]

theorem visit_of_boundary (boundary : isBoundary line = true) :
    visit side cursor line = .ok (none, .outside) := by
  simp only [visit, read?_eq_none_of_isBoundary boundary, boundary, if_true]

theorem visit_outside (read : HeaderText.read? line = none) :
    visit side .outside line = .ok (none, .outside) := by
  simp only [visit, read, ite_self]

theorem visit_inside (read : HeaderText.read? line = none) (other : isBoundary line = false)
    (next old new : Nat) :
    visit side (.inside next old new) line = .ok ((Cursor.inside next old new).read side line) := by
  simp only [visit, read, other, Bool.false_eq_true, if_false]

end

/-! ## The lines of a patch -/

/-- The lines that a walk over a patch reads. -/
def rows (patch : Text) : List Text :=
  (Text.lines patch).map Text.dropReturn

theorem changes_eq_walk (patch : Text) : changes side patch = walk side .outside (rows patch) := rfl

@[simp] theorem rows_nil : rows [] = [[]] := rfl

theorem rows_line {line : Text} (plain : '\n' ∉ line) : rows line = [Text.dropReturn line] := by
  rw [rows, Text.lines_of_not_mem plain, List.map_singleton]

theorem rows_line_append {line : Text} (plain : '\n' ∉ line) (rest : Text) :
    rows (line ++ '\n' :: rest) = Text.dropReturn line :: rows rest := by
  rw [rows, Text.lines_line_append plain, List.map_cons, rows]

/-! ## Two rows of lines -/

/-- What is recorded on the way over some lines, with the cursor behind them. -/
def run : Cursor → List Text → Except NumeralTooLong (List ChangedLine × Cursor)
  | cursor, [] => .ok ([], cursor)
  | cursor, line :: rest => do
      let (recorded, next) ← visit side cursor line
      let (more, last) ← run next rest
      return (recorded.toList ++ more, last)

@[simp] theorem run_nil (cursor : Cursor) : run side cursor [] = .ok ([], cursor) := rfl

/-- A walk is a run that forgets where it has ended. -/
theorem walk_eq_run (cursor : Cursor) (lines : List Text) :
    walk side cursor lines = Prod.fst <$> run side cursor lines := by
  induction lines generalizing cursor with
  | nil => rfl
  | cons line rest ih =>
      simp only [walk, run, ih, map_bind, bind_map_left]
      rfl

/-- A run goes on from the cursor that its first part has left. -/
theorem run_append (cursor : Cursor) (before after : List Text) :
    run side cursor (before ++ after) = do
      let (recorded, next) ← run side cursor before
      let (more, last) ← run side next after
      return (recorded ++ more, last) := by
  induction before generalizing cursor with
  | nil =>
      simp only [List.nil_append, run_nil]
      exact (bind_pure _).symm
  | cons line rest ih =>
      simp only [List.cons_append, run, ih, bind_assoc, pure_bind, List.append_assoc]

/-- The recorded lines of two parts that are known to be read. -/
theorem run_append_of_ok {cursor middle last : Cursor} {before after : List Text}
    {first second : List ChangedLine} (h₁ : run side cursor before = .ok (first, middle))
    (h₂ : run side middle after = .ok (second, last)) :
    run side cursor (before ++ after) = .ok (first ++ second, last) := by
  rw [run_append, h₁]
  simp only [Except.bind, bind, h₂]
  rfl

theorem run_cons_of_ok {cursor middle last : Cursor} {line : Text} {rest : List Text}
    {recorded : Option ChangedLine} {more : List ChangedLine}
    (h₁ : visit side cursor line = .ok (recorded, middle))
    (h₂ : run side middle rest = .ok (more, last)) :
    run side cursor (line :: rest) = .ok (recorded.toList ++ more, last) := by
  rw [run, h₁]
  simp only [Except.bind, bind, h₂]
  rfl

theorem walk_append (cursor : Cursor) (before after : List Text) :
    walk side cursor (before ++ after) = do
      let (recorded, next) ← run side cursor before
      return recorded ++ (← walk side next after) := by
  simp only [walk_eq_run, run_append, map_bind, bind_map_left]
  rfl

/-! ## Where a walk begins anew -/

/-- A hunk header or the boundary of a file. -/
def Resets (line : Text) : Prop :=
  (HeaderText.read? line).isSome = true ∨ isBoundary line = true

instance (line : Text) : Decidable (Resets line) :=
  inferInstanceAs (Decidable (_ ∨ _))

@[simp] theorem resets_dropReturn {line : Text} : Resets (Text.dropReturn line) ↔ Resets line := by
  simp only [Resets, HeaderText.read?_dropReturn, isBoundary_dropReturn]

variable {side}

/-- Such a line treats all cursors alike. -/
theorem visit_of_resets {line : Text} (resets : Resets line) (cursor other : Cursor) :
    visit side cursor line = visit side other line := by
  rcases resets with header | boundary
  · obtain ⟨written, read⟩ := Option.isSome_iff_exists.1 header
    rw [visit_of_header side cursor read, visit_of_header side other read]
  · rw [visit_of_boundary side cursor boundary, visit_of_boundary side other boundary]

theorem walk_cons_of_resets {line : Text} (resets : Resets line) (cursor other : Cursor)
    (rest : List Text) : walk side cursor (line :: rest) = walk side other (line :: rest) := by
  rw [walk, walk, visit_of_resets resets cursor other]

theorem walk_cons_of_boundary {line : Text} (boundary : isBoundary line = true) (cursor : Cursor)
    (rest : List Text) : walk side cursor (line :: rest) = walk side .outside rest := by
  rw [walk, visit_of_boundary side cursor boundary]
  exact bind_pure (walk side .outside rest)

/-- A walk may be cut before such a line and begun anew with any cursor. -/
theorem walk_append_of_resets {line : Text} (resets : Resets line) (cursor other : Cursor)
    (before after : List Text) :
    walk side cursor (before ++ line :: after) = do
      let first ← walk side cursor before
      let second ← walk side other (line :: after)
      return first ++ second := by
  rw [walk_append, walk_eq_run side cursor before]
  simp only [walk_cons_of_resets resets _ other, bind_map_left]

variable (side)

/-- An empty line behind everything records nothing, whatever the cursor. -/
theorem walk_empty_line (cursor : Cursor) : walk side cursor [[]] = pure [] := by
  have plain : HeaderText.read? [] = none := rfl
  cases cursor with
  | outside => rw [walk, visit_outside side plain]; rfl
  | inside next old new =>
      rw [walk, visit_inside side plain rfl]
      -- whether it counts as context or not, nothing is recorded
      cases promised : (Cursor.inside next old new).inBody <;>
        simp [Cursor.read, LineKind.of, promised, walk, bind, Except.bind, pure, Except.pure]

/-- The changes of a text that is given by its lines. -/
theorem changes_joinLines {rows : List Text} (plain : ∀ row ∈ rows, '\n' ∉ row) :
    changes side (Text.joinLines rows) = walk side .outside (rows.map Text.dropReturn) := by
  cases rows with
  | nil => rfl
  | cons row rows => rw [changes, Text.lines_joinLines (by simp) plain]

/-- The changes of a text whose lines are known to be read. The last line feed may be missing. -/
theorem changes_joinLines_of_run {rows : List Text} (plain : ∀ row ∈ rows, '\n' ∉ row)
    {recorded : List ChangedLine} {last : Cursor}
    (whole : run side .outside (rows.map Text.dropReturn) = .ok (recorded, last)) (ended : Bool) :
    changes side (Text.joinLines (rows ++ if ended then [[]] else [])) = .ok recorded := by
  have unbroken := Text.newline_not_mem_append_ended plain ended
  have behind : walk side last ((if ended then [[]] else []).map Text.dropReturn) = pure [] := by
    cases ended with
    | true => exact walk_empty_line side last
    | false => rfl
  rw [changes_joinLines side unbroken, List.map_append, walk_append, whole]
  simp only [bind, Except.bind, behind, pure, Except.pure, List.append_nil]

/-- At every hunk header and every file boundary a patch falls into two parts that are read
apart. The part that fails first decides how the whole fails. -/
theorem changes_eq_changes_before_after (patch : Text) {i : Nat} {line : Text}
    (place : (Text.lines patch)[i]? = some line) (resets : Resets line) :
    changes side patch = do
      let first ← changes side (Text.joinLines ((Text.lines patch).take i))
      let second ← changes side (Text.joinLines ((Text.lines patch).drop i))
      return first ++ second := by
  have plain : ∀ row ∈ Text.lines patch, '\n' ∉ row :=
    fun row mem => Text.newline_not_mem_of_mem_lines mem
  obtain ⟨bound, same⟩ := List.getElem?_eq_some_iff.1 place
  have onwards : (Text.lines patch).drop i = line :: (Text.lines patch).drop (i + 1) := by
    rw [List.drop_eq_getElem_cons bound, same]
  rw [changes_joinLines side fun row mem => plain row (List.mem_of_mem_take mem),
    changes_joinLines side fun row mem => plain row (List.mem_of_mem_drop mem), onwards,
    List.map_cons, ← walk_append_of_resets (resets_dropReturn.2 resets), ← List.map_cons,
    ← onwards, ← List.map_append, List.take_append_drop, changes]

/-- A hunk that promises more lines than it has, before another hunk. -/
def truncatedHunk : Text :=
  "@@ -1,9 +1,9 @@\n+a\n\n@@ -5 +6 @@ f\n--- c\n+d".toList

/-- The broken promise is forgotten at the second header. -/
theorem changes_truncatedHunk :
    (Text.lines truncatedHunk)[3]? = some "@@ -5 +6 @@ f".toList ∧
      Resets "@@ -5 +6 @@ f".toList ∧
      changes .removed truncatedHunk = do
        let first ← changes .removed (Text.joinLines ((Text.lines truncatedHunk).take 3))
        let second ← changes .removed (Text.joinLines ((Text.lines truncatedHunk).drop 3))
        return first ++ second := by
  have place : (Text.lines truncatedHunk)[3]? = some "@@ -5 +6 @@ f".toList := by decide
  have resets : Resets "@@ -5 +6 @@ f".toList := by decide
  exact ⟨place, resets, changes_eq_changes_before_after .removed truncatedHunk place resets⟩

end PatchSurvey.Hunk
