import PatchSurvey.Proofs.Diff.Recovery
import PatchSurvey.Proofs.Hunk.Overlong

/-! # Numbers of removed lines

A removed line has the number of the next new-file line if its hunk shows a line of
the new file. A hunk that shows none starts at the line before it, and its removed
lines are numbered one too low. -/

namespace PatchSurvey

/-- Changed lines are given by their numbers and their contents. -/
theorem ChangedLine.eq_of_map_eq {first second : List ChangedLine}
    (numbers : first.map number = second.map number)
    (contents : first.map content = second.map content) : first = second := by
  have zipped (lines : List ChangedLine) :
      List.zipWith mk (lines.map number) (lines.map content) = lines := by
    rw [List.zipWith_map, List.zipWith_self]
    exact List.map_id lines
  calc
    first = List.zipWith mk (first.map number) (first.map content) := (zipped first).symm
    _ = List.zipWith mk (second.map number) (second.map content) := by rw [numbers, contents]
    _ = second := zipped second

namespace Diff

open Hunk

namespace Script

theorem length_changes (side : Side) (next : Nat) (script : Script) :
    (changes side next script).length = (script.filterMap (Edit.changed? side)).length := by
  have contents := congrArg List.length (map_content_changes side next script)
  rwa [List.length_map, List.length_map] at contents

/-- From two numbers on, changes are numbered alike only if the numbers are the same or nothing is
changed. -/
theorem map_number_changes_eq_iff (side : Side) (script : Script) (first second : Nat) :
    (changes side first script).map ChangedLine.number =
        (changes side second script).map ChangedLine.number ↔
      script.filterMap (Edit.changed? side) = [] ∨ first = second := by
  induction script generalizing first second with
  | nil => simp [changes]
  | cons edit rest ih =>
      rw [changes, changes, List.map_append, List.map_append]
      cases changed : edit.changed? side with
      | none =>
          rw [List.filterMap_cons_none changed]
          exact (ih _ _).trans (or_congr_right Nat.add_right_cancel_iff)
      | some line =>
          rw [List.filterMap_cons_some changed]
          constructor
          · intro same
            right
            exact Int.ofNat.inj (List.cons.inj same).1
          · intro same
            rcases same with none | rfl
            · cases none
            · rfl

end Script

/-- If the hunk deletes a line, it also shows a line of the new file. -/
def Block.Anchored (block : Block) : Prop :=
  block.script.filterMap (Edit.changed? .removed) ≠ [] → block.script.newFile ≠ []

instance (block : Block) : Decidable block.Anchored :=
  inferInstanceAs (Decidable (_ → _))

namespace Block

variable (block : Block) (oldBefore newBefore : Nat)

/-- The removed lines of a hunk have the numbers of the script exactly if the hunk is anchored. -/
theorem map_number_changes_eq_iff :
    ((block.written oldBefore (newBefore + block.skipped.length)).changes .removed).map
          ChangedLine.number =
        (block.wholeScript.changes .removed (newBefore + 1)).map ChangedLine.number ↔
      block.Anchored := by
  have start (before : Nat) : firstNumber before block.script.newFile.length = before + 1 ↔
      block.script.newFile ≠ [] := by
    rw [firstNumber, ne_eq, ← List.length_eq_zero_iff]
    split
    · simp_all
    · simp_all
  rw [changes_written, changes_wholeScript, Script.map_number_changes_eq_iff, Nat.add_right_comm,
    start, Anchored]
  exact Decidable.or_iff_not_imp_left

theorem length_changes_written (side : Side) (next : Nat) :
    ((block.written oldBefore newBefore).changes side).length =
      (block.wholeScript.changes side next).length := by
  rw [changes_written, changes_wholeScript, Script.length_changes, Script.length_changes]

end Block

/-- The removed lines of hunks at their places have the numbers of the script exactly if every hunk
is anchored. -/
theorem map_number_flatMap_changes_place_iff (old new : Nat) (blocks : List Block) :
    ((place old new blocks).flatMap fun hunk => hunk.changes .removed).map ChangedLine.number =
        (Script.changes .removed (new + 1) (blocks.flatMap Block.wholeScript)).map
          ChangedLine.number ↔
      ∀ block ∈ blocks, block.Anchored := by
  induction blocks generalizing old new with
  | nil => simp [place, Script.changes]
  | cons block blocks ih =>
      have here := block.map_number_changes_eq_iff (old + block.skipped.length) new
      have later := ih (old + block.wholeScript.oldFile.length)
        (new + block.wholeScript.newFile.length)
      rw [place, List.flatMap_cons, List.flatMap_cons, Script.changes_append, List.map_append,
        List.map_append, Nat.add_right_comm new 1, List.forall_mem_cons, ← here, ← later]
      constructor
      · intro same
        apply List.append_inj same
        rw [List.length_map, List.length_map]
        exact block.length_changes_written ..
      · rintro ⟨first, others⟩
        rw [first, others]

namespace FileDiff

variable (file : FileDiff)

/-- The removed lines of a file are recorded with the numbers of its script exactly if every hunk is
anchored. -/
theorem changes_removed_eq_iff :
    (file.changes .removed).map ChangedLine.dropReturn =
        (file.script.changes .removed 1).map ChangedLine.dropReturn ↔
      ∀ block ∈ file.blocks, block.Anchored := by
  have numbers : (file.changes .removed).map ChangedLine.number =
        (file.script.changes .removed 1).map ChangedLine.number ↔
      ∀ block ∈ file.blocks, block.Anchored := by
    rw [script, Script.changes_append, Script.changes_keep, List.append_nil]
    exact map_number_flatMap_changes_place_iff 0 0 file.blocks
  have contents : (file.changes .removed).map ChangedLine.content =
      (file.script.changes .removed 1).map ChangedLine.content := by
    rw [map_content_changes, Script.map_content_changes]
  rw [← numbers]
  constructor
  · intro same
    have numbered := congrArg (List.map ChangedLine.number) same
    rwa [List.map_map, List.map_map] at numbered
  · intro same
    rw [ChangedLine.eq_of_map_eq same contents]

variable {file}

/-- A file whose diff is read has readable headers. -/
theorem readable_of_changes_text {side : Side} {ended : Bool} {recorded : List ChangedLine}
    (read : Hunk.changes side (text [file] ended) = .ok recorded) : file.Readable := by
  intro hunk mem
  have line : hunk.header.write ++ hunk.caption.text ∈ Text.lines (text [file] ended) := by
    have row : hunk.header.write ++ hunk.caption.text ∈ file.rows :=
      List.mem_append_right _ (List.mem_flatMap.2 ⟨hunk, mem, List.mem_cons_self ..⟩)
    have unbroken := Text.newline_not_mem_append_ended file.newline_not_mem_rows ended
    rw [text, List.flatMap_singleton,
      Text.lines_joinLines (List.append_ne_nil_of_left_ne_nil (List.ne_nil_of_mem row) _) unbroken]
    exact List.mem_append_left _ row
  have readable : Hunk.Readable (text [file] ended) := by
    cases long : overlong? (text [file] ended) with
    | none => exact overlong?_eq_none_iff.1 long
    | some digits =>
        rw [changes_of_overlong? side long] at read
        cases read
  exact readable _ line _ (HeaderText.read?_write hunk.numeric _)

end FileDiff

/-- The removed lines of a written diff are recorded with the numbers of the edit script exactly if
every hunk that deletes a line shows a line of the new file. -/
theorem changes_removed_text_eq_iff (file : FileDiff) (ended : Bool) :
    Hunk.changes .removed (text [file] ended) =
        .ok ((file.script.changes .removed 1).map ChangedLine.dropReturn) ↔
      file.Readable ∧ ∀ block ∈ file.blocks, block.Anchored := by
  have recorded (readable : file.Readable) : Hunk.changes .removed (text [file] ended) =
      .ok ((file.changes .removed).map ChangedLine.dropReturn) := by
    have whole := changes_text .removed (List.forall_mem_singleton.2 readable) ended
    rwa [List.flatMap_singleton] at whole
  constructor
  · intro read
    have readable := FileDiff.readable_of_changes_text read
    rw [recorded readable] at read
    exact ⟨readable, file.changes_removed_eq_iff.1 (Except.ok.inj read)⟩
  · rintro ⟨readable, anchored⟩
    rw [recorded readable, file.changes_removed_eq_iff.2 anchored]

end Diff

end PatchSurvey
