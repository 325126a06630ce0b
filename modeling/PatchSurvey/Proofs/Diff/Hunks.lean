import PatchSurvey.Proofs.Diff.Layout

/-! # Reading a written hunk

The header promises the lines of the hunk. In the body the cursor promises
exactly the lines that are still to come, so every line is read for what it is,
whatever its content looks like. Behind the body nothing is promised. -/

namespace PatchSurvey.Diff

open Hunk

/-- The kind that a line of the step has in a hunk. -/
def Edit.kind : Edit → LineKind
  | keep _ => .context
  | delete line => .removed (Text.dropReturn line.text)
  | insert line => .added (Text.dropReturn line.text)

namespace BodyLine

variable (line : BodyLine)

/-- As long as lines are promised, a line is read as what it was written for. -/
theorem kind_row : LineKind.of true (Text.dropReturn line.row) = line.edit.kind := by
  obtain ⟨edit, bare, unended⟩ := line
  cases edit with
  | keep kept =>
      simp only [row]
      split
      · rename_i blank
        simp only [Bool.and_eq_true, List.isEmpty_iff] at blank
        rw [blank.2]
        rfl
      · rw [Text.dropReturn_cons (by decide)]
        rfl
  | delete deleted =>
      simp only [row]
      rw [Text.dropReturn_cons (by decide)]
      rfl
  | insert inserted =>
      simp only [row]
      rw [Text.dropReturn_cons (by decide)]
      rfl

/-- A line begins with its mark, or it is blank. -/
theorem head?_row_ne {c : Char} (other : c ∉ ['\r', ' ', '-', '+']) : line.row.head? ≠ some c := by
  simp only [List.mem_cons, List.not_mem_nil, or_false, not_or] at other
  obtain ⟨noReturn, noSpace, noMinus, noPlus⟩ := other
  obtain ⟨edit, bare, unended⟩ := line
  cases edit with
  | keep kept =>
      simp only [row]
      split
      · rename_i blank
        simp only [Bool.and_eq_true, List.isEmpty_iff] at blank
        intro first
        obtain ⟨rest, same⟩ := List.head?_eq_some_iff.1 first
        rw [same, Text.dropReturn_cons noReturn] at blank
        exact List.cons_ne_nil _ _ blank.2
      · simpa using Ne.symm noSpace
  | delete deleted => simpa [row] using Ne.symm noMinus
  | insert inserted => simpa [row] using Ne.symm noPlus

theorem read?_row : HeaderText.read? line.row = none :=
  HeaderText.read?_eq_none_of_head? (line.head?_row_ne (by decide))

theorem isBoundary_row : isBoundary line.row = false :=
  isBoundary_eq_false_of_head? (line.head?_row_ne (by decide))

variable (side : Side) (next old new : Nat)

/-- A line takes exactly its own part off the promise. -/
theorem visit_row :
    visit side
        (.inside next ((Script.oldFile [line.edit]).length + old)
          ((Script.newFile [line.edit]).length + new))
        (Text.dropReturn line.row) =
      .ok ((line.edit.changed? side).map fun changed => ⟨next, Text.dropReturn changed.text⟩,
        .inside (next + (Script.newFile [line.edit]).length) old new) := by
  rw [visit_inside side (by rw [HeaderText.read?_dropReturn, read?_row])
    (by rw [isBoundary_dropReturn, isBoundary_row])]
  have promised : (Cursor.inside next ((Script.oldFile [line.edit]).length + old)
      ((Script.newFile [line.edit]).length + new)).inBody = true := by
    rw [Cursor.inBody_inside]
    cases line.edit with
    | keep kept => exact Or.inl (Nat.add_pos_left Nat.one_pos old)
    | delete deleted => exact Or.inl (Nat.add_pos_left Nat.one_pos old)
    | insert inserted => exact Or.inr (Nat.add_pos_left Nat.one_pos new)
  rw [Cursor.read, promised, kind_row]
  cases line.edit <;> cases side <;>
    simp [Edit.kind, Edit.changed?, Cursor.record?, Cursor.pass, Cursor.count, Cursor.consume,
      Script.oldFile, Script.newFile, Edit.old?, Edit.new?]

/-- The note about a missing line feed is passed over. -/
theorem visit_unendedNote :
    visit side (.inside next old new) (Text.dropReturn unendedNote) =
      .ok (none, .inside next old new) := by
  rw [visit_inside side rfl rfl]
  cases side <;> rfl

theorem run_rows :
    run side
        (.inside next ((Script.oldFile [line.edit]).length + old)
          ((Script.newFile [line.edit]).length + new))
        (line.rows.map Text.dropReturn) =
      .ok ((Script.changes side next [line.edit]).map ChangedLine.dropReturn,
        .inside (next + (Script.newFile [line.edit]).length) old new) := by
  have first := line.visit_row side next old new
  have recorded : (Script.changes side next [line.edit]).map ChangedLine.dropReturn =
      ((line.edit.changed? side).map fun changed =>
        ChangedLine.mk next (Text.dropReturn changed.text)).toList ++ [] := by
    rw [Script.changes, Script.changes]
    cases line.edit.changed? side <;> rfl
  rw [recorded, rows, List.map_cons]
  apply run_cons_of_ok side first
  split
  · exact run_cons_of_ok side (visit_unendedNote ..) (run_nil ..)
  · exact run_nil ..

end BodyLine

/-- In the body of a hunk the cursor promises exactly the lines that are left. -/
theorem run_body (side : Side) (next : Nat) (body : List BodyLine) :
    run side
        (.inside next (Script.oldFile (body.map BodyLine.edit)).length
          (Script.newFile (body.map BodyLine.edit)).length)
        ((body.flatMap BodyLine.rows).map Text.dropReturn) =
      .ok ((Script.changes side next (body.map BodyLine.edit)).map ChangedLine.dropReturn,
        .inside (next + (Script.newFile (body.map BodyLine.edit)).length) 0 0) := by
  induction body generalizing next with
  | nil => rfl
  | cons line body ih =>
      rw [List.map_cons, Script.oldFile_cons, Script.newFile_cons, List.length_append,
        List.length_append, List.flatMap_cons, List.map_append, Script.changes,
        ← Nat.add_assoc]
      have first := line.run_rows side next (Script.oldFile (body.map BodyLine.edit)).length
        (Script.newFile (body.map BodyLine.edit)).length
      have whole := run_append_of_ok side first (ih _)
      rw [whole, Script.changes, Script.changes, List.append_nil, List.map_append]

/-- A hunk with a readable header is read whole, and nothing is promised behind it. -/
theorem WrittenHunk.run_rows (hunk : WrittenHunk) (readable : hunk.header.Readable) (side : Side)
    (cursor : Cursor) :
    run side cursor (hunk.rows.map Text.dropReturn) =
      .ok ((hunk.changes side).map ChangedLine.dropReturn,
        .inside (hunk.header.value.newStart + hunk.script.newFile.length) 0 0) := by
  have read : HeaderText.read? (Text.dropReturn (hunk.header.write ++ hunk.caption.text)) =
      some hunk.header := by
    rw [HeaderText.read?_dropReturn, HeaderText.read?_write hunk.numeric]
  have start : visit side cursor (Text.dropReturn (hunk.header.write ++ hunk.caption.text)) =
      .ok (none, .inside hunk.header.value.newStart (Script.oldFile hunk.script).length
        (Script.newFile hunk.script).length) := by
    rw [visit_of_header side cursor read, HeaderText.promise_of_readable readable, script,
      ← hunk.oldCount, ← hunk.newCount]
    rfl
  exact run_cons_of_ok side start (run_body side hunk.header.value.newStart hunk.body)

/-! ## Several hunks -/

/-- Hunks behind each other are read one by one. -/
theorem run_hunks (side : Side) {hunks : List WrittenHunk}
    (readable : ∀ hunk ∈ hunks, hunk.header.Readable) {cursor : Cursor}
    (idle : cursor.inBody = false) :
    ∃ last, last.inBody = false ∧
      run side cursor ((hunks.flatMap WrittenHunk.rows).map Text.dropReturn) =
        .ok ((hunks.flatMap fun hunk => hunk.changes side).map ChangedLine.dropReturn, last) := by
  induction hunks generalizing cursor with
  | nil => exact ⟨cursor, idle, rfl⟩
  | cons hunk hunks ih =>
      obtain ⟨first, later⟩ := List.forall_mem_cons.1 readable
      have first := hunk.run_rows first side cursor
      have still : (Cursor.inside (hunk.header.value.newStart + hunk.script.newFile.length)
          0 0).inBody = false := rfl
      obtain ⟨last, done, others⟩ := ih later still
      refine ⟨last, done, ?_⟩
      rw [List.flatMap_cons, List.map_append, List.flatMap_cons, List.map_append]
      exact run_append_of_ok side first others

/-- Outside of every hunk, lines without a header leave the cursor there. -/
theorem run_outside (side : Side) {lines : List Text}
    (noHeader : ∀ line ∈ lines, HeaderText.read? line = none) :
    run side .outside (lines.map Text.dropReturn) = .ok ([], .outside) := by
  induction lines with
  | nil => rfl
  | cons line lines ih =>
      obtain ⟨first, later⟩ := List.forall_mem_cons.1 noHeader
      have first : visit side .outside (Text.dropReturn line) = .ok (none, .outside) := by
        apply visit_outside
        rw [HeaderText.read?_dropReturn, first]
      exact run_cons_of_ok side first (ih later)

/-! ## The lines of a hunk -/

theorem BodyLine.newline_not_mem_rows (line : BodyLine) : ∀ row ∈ line.rows, '\n' ∉ row := by
  intro row mem
  rcases List.mem_cons.1 mem with rfl | mem
  · obtain ⟨edit, bare, unended⟩ := line
    cases edit with
    | keep kept =>
        simp only [BodyLine.row]
        split
        · exact kept.unbroken
        · simp [kept.unbroken]
    | delete deleted => simp [BodyLine.row, deleted.unbroken]
    | insert inserted => simp [BodyLine.row, inserted.unbroken]
  · split at mem
    · rw [List.mem_singleton.1 mem]
      decide
    · cases mem

theorem BodyLine.isBoundary_of_mem_rows {line : BodyLine} {row : Text} (mem : row ∈ line.rows) :
    isBoundary row = false := by
  rcases List.mem_cons.1 mem with rfl | mem
  · exact line.isBoundary_row
  · split at mem
    · rw [List.mem_singleton.1 mem]
      rfl
    · cases mem

/-- No line of a hunk is a boundary. -/
theorem WrittenHunk.isBoundary_of_mem_rows {hunk : WrittenHunk} {row : Text}
    (mem : row ∈ hunk.rows) : isBoundary row = false := by
  rcases List.mem_cons.1 mem with rfl | mem
  · exact isBoundary_eq_false_of_read? (HeaderText.read?_write hunk.numeric _)
  · obtain ⟨line, _, mem⟩ := List.mem_flatMap.1 mem
    exact BodyLine.isBoundary_of_mem_rows mem

theorem WrittenHunk.newline_not_mem_rows (hunk : WrittenHunk) : ∀ row ∈ hunk.rows, '\n' ∉ row := by
  intro row mem
  rcases List.mem_cons.1 mem with rfl | mem
  · intro feed
    rcases List.mem_append.1 feed with feed | feed
    · exact hunk.numeric.newline_not_mem_write feed
    · exact hunk.caption.unbroken feed
  · obtain ⟨line, _, mem⟩ := List.mem_flatMap.1 mem
    exact line.newline_not_mem_rows row mem

end PatchSurvey.Diff
