import Mathlib.Data.List.Basic
import PatchSurvey.Proofs.Diff.Hunks

/-! # Recovering the changes of a written diff

Between two hunks nothing is promised, so the lines of a heading are passed over.
A walk over a written diff therefore records the changes of its hunks: the
inserted lines with their numbers in the new file, and the deleted lines counted
from the new start of their hunk. -/

namespace PatchSurvey.Diff

open Hunk

/-! ## Between hunks -/

namespace Quiet

variable {line : Text}

theorem dropReturn (quiet : Quiet line) : Quiet (Text.dropReturn line) := by
  obtain ⟨tail, whole⟩ := Text.eq_dropReturn_append line
  have head {c : Char} (h : (Text.dropReturn line).head? = some c) : line.head? = some c := by
    obtain ⟨rest, same⟩ := List.head?_eq_some_iff.1 h
    rw [whole, same]
    rfl
  refine ⟨(HeaderText.read?_dropReturn line).trans quiet.noHeader, fun h => ?_, fun h => ?_⟩
  · rw [Text.startsWith_dropReturn (by decide), quiet.notAdded (head h)]
  · rw [Text.startsWith_dropReturn (by decide), quiet.notRemoved (head h)]

/-- Where nothing is promised, a quiet line is at most context. -/
theorem kind_eq (quiet : Quiet line) :
    LineKind.of false line = .context ∨ LineKind.of false line = .ignored := by
  unfold LineKind.of
  split
  · right
    rw [quiet.notAdded rfl]
    rfl
  · right
    rw [quiet.notRemoved rfl]
    rfl
  · exact Or.inl rfl
  · exact Or.inr rfl
  · exact Or.inr rfl

/-- Where nothing is promised, a quiet line is not recorded and promises nothing. -/
theorem visit_eq (quiet : Quiet line) (side : Side) {cursor : Cursor}
    (idle : cursor.inBody = false) :
    ∃ next, next.inBody = false ∧ visit side cursor line = .ok (none, next) := by
  cases boundary : isBoundary line with
  | true => exact ⟨.outside, rfl, visit_of_boundary side cursor boundary⟩
  | false =>
      cases cursor with
      | outside => exact ⟨.outside, rfl, visit_outside side quiet.noHeader⟩
      | inside next old new =>
          rw [visit_inside side quiet.noHeader boundary, Cursor.read, idle]
          have none : ¬ (0 < old ∨ 0 < new) := fun promised =>
            Bool.false_ne_true (idle.symm.trans (Cursor.inBody_inside.2 promised))
          obtain ⟨rfl, rfl⟩ : old = 0 ∧ new = 0 := by omega
          rcases quiet.kind_eq with kind | kind
          · exact ⟨.inside (next + 1) 0 0, rfl, by rw [kind, Cursor.record?_context]; rfl⟩
          · exact ⟨.inside next 0 0, rfl, by rw [kind, Cursor.record?_ignored]; rfl⟩

end Quiet

/-- Quiet lines are passed over. -/
theorem run_quiet (side : Side) {lines : List Text} (quiet : ∀ line ∈ lines, Quiet line)
    {cursor : Cursor} (idle : cursor.inBody = false) :
    ∃ last, last.inBody = false ∧
      run side cursor (lines.map Text.dropReturn) = .ok ([], last) := by
  induction lines generalizing cursor with
  | nil => exact ⟨cursor, idle, rfl⟩
  | cons line lines ih =>
      obtain ⟨first, later⟩ := List.forall_mem_cons.1 quiet
      obtain ⟨next, still, first⟩ := first.dropReturn.visit_eq side idle
      obtain ⟨last, done, others⟩ := ih later still
      exact ⟨last, done, run_cons_of_ok side first others⟩

/-- A heading is passed over. -/
theorem Heading.run_rows (heading : Heading) (side : Side) {cursor : Cursor}
    (idle : cursor.inBody = false) :
    ∃ last, last.inBody = false ∧
      run side cursor (heading.rows.map Text.dropReturn) = .ok ([], last) := by
  cases heading with
  | bare => exact ⟨cursor, idle, rfl⟩
  | boundary names more noHeader =>
      have mark : isBoundary (Text.dropReturn (boundaryMark ++ names.text)) = true := by
        rw [isBoundary_dropReturn]
        exact Text.startsWith_iff.2 ⟨names.text, rfl⟩
      refine ⟨.outside, rfl, ?_⟩
      rw [rows, List.map_cons]
      apply run_cons_of_ok side (visit_of_boundary side cursor mark)
      exact run_outside side (List.forall_mem_map.2 noHeader)
  | marks lead quiet old new =>
      apply run_quiet side _ idle
      intro line mem
      rcases List.mem_append.1 mem with mem | mem
      · exact List.forall_mem_map.2 quiet line mem
      · rcases List.mem_cons.1 mem with rfl | mem
        · exact ⟨HeaderText.read?_eq_none_of_head? (by simp), by simp, fun _ => rfl⟩
        · obtain rfl := List.mem_singleton.1 mem
          exact ⟨HeaderText.read?_eq_none_of_head? (by simp), fun _ => rfl, by simp⟩

/-! ## Files -/

/-- Files behind each other are read one by one. -/
theorem run_files (side : Side) {files : List FileDiff} (readable : ∀ file ∈ files, file.Readable)
    {cursor : Cursor} (idle : cursor.inBody = false) :
    ∃ last, last.inBody = false ∧
      run side cursor ((files.flatMap FileDiff.rows).map Text.dropReturn) =
        .ok ((files.flatMap fun file => file.changes side).map ChangedLine.dropReturn, last) := by
  induction files generalizing cursor with
  | nil => exact ⟨cursor, idle, rfl⟩
  | cons file files ih =>
      obtain ⟨first, later⟩ := List.forall_mem_cons.1 readable
      obtain ⟨before, still, heading⟩ := file.heading.run_rows side idle
      obtain ⟨middle, between, hunks⟩ := run_hunks side first still
      obtain ⟨last, done, others⟩ := ih later between
      refine ⟨last, done, ?_⟩
      rw [List.flatMap_cons, List.map_append, FileDiff.rows, List.map_append, List.flatMap_cons,
        List.map_append]
      exact run_append_of_ok side (run_append_of_ok side heading hunks) others

/-! ## Texts -/

theorem Heading.newline_not_mem_rows (heading : Heading) : ∀ row ∈ heading.rows, '\n' ∉ row := by
  intro row mem
  cases heading with
  | bare => cases mem
  | boundary names more _ =>
      rcases List.mem_cons.1 mem with rfl | mem
      · rw [List.mem_append, not_or]
        exact ⟨by decide, names.unbroken⟩
      · exact newline_not_mem_of_mem_map_text row mem
  | marks lead _ old new =>
      rcases List.mem_append.1 mem with mem | mem
      · exact newline_not_mem_of_mem_map_text row mem
      · rcases List.mem_cons.1 mem with rfl | mem
        · rw [List.mem_append, not_or]
          exact ⟨by decide, old.unbroken⟩
        · rw [List.mem_singleton.1 mem, List.mem_append, not_or]
          exact ⟨by decide, new.unbroken⟩

theorem FileDiff.newline_not_mem_rows (file : FileDiff) : ∀ row ∈ file.rows, '\n' ∉ row := by
  intro row mem
  rcases List.mem_append.1 mem with mem | mem
  · exact file.heading.newline_not_mem_rows row mem
  · obtain ⟨hunk, _, mem⟩ := List.mem_flatMap.1 mem
    exact hunk.newline_not_mem_rows row mem

/-- A walk over a written diff records the changes of its hunks, each without the carriage return
at its end. -/
theorem changes_text (side : Side) {files : List FileDiff}
    (readable : ∀ file ∈ files, file.Readable) (ended : Bool) :
    Hunk.changes side (text files ended) =
      .ok ((files.flatMap fun file => file.changes side).map ChangedLine.dropReturn) := by
  have plain : ∀ row ∈ files.flatMap FileDiff.rows, '\n' ∉ row := by
    intro row mem
    obtain ⟨file, _, mem⟩ := List.mem_flatMap.1 mem
    exact file.newline_not_mem_rows row mem
  have idle : Cursor.outside.inBody = false := rfl
  obtain ⟨last, -, whole⟩ := run_files side readable idle
  exact changes_joinLines_of_run side plain whole ended

/-! ## What is recovered -/

/-- The changes of a hunk are numbered from its first new-file line on. -/
theorem Block.changes_written (block : Block) (oldBefore newBefore : Nat) (side : Side) :
    (block.written oldBefore newBefore).changes side =
      block.script.changes side (firstNumber newBefore block.script.newFile.length) := by
  have start : (block.written oldBefore newBefore).header.value.newStart =
      firstNumber newBefore block.script.newFile.length :=
    Text.numeralValue_ofNat _
  rw [WrittenHunk.changes, start]
  rfl

/-- The kept lines before a hunk only count. -/
theorem Block.changes_wholeScript (block : Block) (side : Side) (next : Nat) :
    block.wholeScript.changes side next =
      block.script.changes side (next + block.skipped.length) := by
  rw [Block.wholeScript, Script.changes_append, Script.changes_keep, Script.newFile_keep,
    List.nil_append]

/-- The added lines of the hunks are those of the script: the new start of a hunk that adds a line
is the number of its first new-file line, and kept lines between hunks only count. -/
theorem flatMap_changes_added_place (old new : Nat) (blocks : List Block) :
    ((place old new blocks).flatMap fun hunk => hunk.changes .added) =
      Script.changes .added (new + 1) (blocks.flatMap Block.wholeScript) := by
  induction blocks generalizing old new with
  | nil => rfl
  | cons block blocks ih =>
      have first (oldBefore : Nat) :
          (block.written oldBefore (new + block.skipped.length)).changes .added =
            Script.changes .added (new + 1) block.wholeScript := by
        calc
          _ = block.script.changes .added
              (firstNumber (new + block.skipped.length) block.script.newFile.length) :=
            block.changes_written ..
          _ = block.script.changes .added (new + 1 + block.skipped.length) := by
            rw [firstNumber, Nat.add_right_comm]
            split
            · -- without new-file lines the hunk starts one line earlier, but it adds nothing
              rename_i empty
              have empty := List.length_eq_zero_iff.1 empty
              rw [Script.changes_added_of_newFile_eq_nil empty,
                Script.changes_added_of_newFile_eq_nil empty]
            · rfl
          _ = Script.changes .added (new + 1) block.wholeScript :=
            (block.changes_wholeScript ..).symm
      rw [place, List.flatMap_cons, List.flatMap_cons, Script.changes_append, ih, first,
        Nat.add_right_comm]

/-- The changed lines of the hunks are those of the script, in order. -/
theorem map_content_flatMap_changes_place (side : Side) (old new : Nat) (blocks : List Block) :
    ((place old new blocks).flatMap fun hunk => hunk.changes side).map ChangedLine.content =
      ((blocks.flatMap Block.wholeScript).filterMap (Edit.changed? side)).map Line.text := by
  induction blocks generalizing old new with
  | nil => rfl
  | cons block blocks ih =>
      have first : (block.wholeScript.filterMap (Edit.changed? side)) =
          block.script.filterMap (Edit.changed? side) := by
        rw [Block.wholeScript, List.filterMap_append, Script.filterMap_changed?_keep,
          List.nil_append]
      rw [place, List.flatMap_cons, List.map_append, ih, Block.changes_written,
        Script.map_content_changes, List.flatMap_cons, List.filterMap_append, List.map_append,
        first]

theorem FileDiff.map_content_changes (file : FileDiff) (side : Side) :
    (file.changes side).map ChangedLine.content =
      (file.script.filterMap (Edit.changed? side)).map Line.text := by
  rw [FileDiff.changes, hunks, map_content_flatMap_changes_place, script, List.filterMap_append,
    Script.filterMap_changed?_keep, List.append_nil]

theorem FileDiff.changes_added (file : FileDiff) : file.changes .added = file.insertions := by
  rw [FileDiff.changes, hunks, flatMap_changes_added_place, insertions, script,
    Script.changes_append, Script.changes_keep, List.append_nil]

/-- The content of a change stands in the script. -/
theorem FileDiff.exists_mem_of_mem_changes {file : FileDiff} {side : Side} {line : ChangedLine}
    (mem : line ∈ file.changes side) : ∃ edit ∈ file.script, line.content = edit.line.text := by
  have content : line.content ∈ (file.changes side).map ChangedLine.content :=
    List.mem_map_of_mem mem
  rw [file.map_content_changes] at content
  obtain ⟨changed, found, same⟩ := List.mem_map.1 content
  obtain ⟨edit, among, changed⟩ := List.mem_filterMap.1 found
  refine ⟨edit, among, ?_⟩
  rw [← same, Edit.line_eq_of_changed? changed]

/-- Contents without a carriage return at the end are recorded as they are. -/
theorem FileDiff.map_dropReturn_changes {file : FileDiff}
    (unreturned : ∀ edit ∈ file.script, edit.line.text.getLast? ≠ some '\r') (side : Side) :
    (file.changes side).map ChangedLine.dropReturn = file.changes side := by
  have kept : ∀ line ∈ file.changes side, line.dropReturn = id line := by
    intro line mem
    obtain ⟨edit, among, same⟩ := exists_mem_of_mem_changes mem
    rw [ChangedLine.dropReturn, same, Text.dropReturn_of_getLast?_ne (unreturned edit among),
      ← same, id]
  rw [List.map_congr_left kept, List.map_id]

/-- The changes of several edit scripts are recovered from the diff that is written for them,
however it is grouped into hunks and whatever its lines look like. An added line has its number in
the new file, and stands there; the removed lines are those that the script deletes, each with the
new start of its hunk plus the number of kept and inserted lines before it in the hunk. -/
theorem changes_text_eq_insertions_deletions {files : List FileDiff}
    (readable : ∀ file ∈ files, file.Readable)
    (unreturned : ∀ file ∈ files, ∀ edit ∈ file.script, edit.line.text.getLast? ≠ some '\r')
    (ended : Bool) :
    Hunk.changes .added (text files ended) = .ok (files.flatMap FileDiff.insertions) ∧
      Hunk.changes .removed (text files ended) = .ok (files.flatMap FileDiff.deletions) ∧
      ∀ file ∈ files,
        (∀ line ∈ file.insertions, ∃ place content,
          line = ⟨(1 + place : Nat), content.text⟩ ∧
            file.script.newFile[place]? = some content) ∧
        file.deletions.map ChangedLine.content =
          (file.script.filterMap (Edit.changed? .removed)).map Line.text := by
  have same (side : Side) : (files.flatMap fun file => file.changes side).map ChangedLine.dropReturn
      = files.flatMap fun file => file.changes side := by
    rw [List.map_flatMap]
    exact List.flatMap_congr fun file mem =>
      FileDiff.map_dropReturn_changes (unreturned file mem) side
  refine ⟨?_, ?_, ?_⟩
  · rw [changes_text .added readable, same]
    simp only [FileDiff.changes_added]
  · rw [changes_text .removed readable, same]
    rfl
  · intro file _
    refine ⟨?_, file.map_content_changes .removed⟩
    intro line mem
    exact Script.getElem?_newFile_of_mem_changes_added mem

/-- Two files whose lines look like marks: a file with a skipped line, a bare blank line and a note,
and one that only loses a line. -/
def lookalikes : List FileDiff := [
  { heading := .boundary (.mk "a/x b/x".toList)
      [.mk "--- a/x".toList, .mk "+++ b/x".toList] (by decide)
    blocks := [{
      skipped := [.mk "+".toList]
      body := [
        ⟨.keep (.mk []), true, false⟩,
        ⟨.delete (.mk "-- old".toList), false, true⟩,
        ⟨.insert (.mk "++ new".toList), false, false⟩,
        ⟨.insert (.mk "@@ -1 +1 @@".toList), false, true⟩]
      oldCountOmitted := true
      newCountOmitted := true
      caption := .mk " f".toList }]
    rest := [] },
  { heading := .marks [] (by simp) (.mk "a/y".toList) (.mk "/dev/null".toList)
    blocks := [{
      skipped := []
      body := [⟨.delete (.mk "diff --git a/z b/z".toList), false, false⟩]
      oldCountOmitted := true
      newCountOmitted := false
      caption := .mk [] }]
    rest := [] }]

/-- Their changes are recovered. -/
theorem changes_text_lookalikes :
    (∀ file ∈ lookalikes, file.Readable) ∧
      (∀ file ∈ lookalikes, ∀ edit ∈ file.script, edit.line.text.getLast? ≠ some '\r') ∧
      Hunk.changes .added (text lookalikes true) = .ok (lookalikes.flatMap FileDiff.insertions) ∧
      Hunk.changes .removed (text lookalikes true) = .ok (lookalikes.flatMap FileDiff.deletions) ∧
      ∀ file ∈ lookalikes,
        (∀ line ∈ file.insertions, ∃ place content,
          line = ⟨(1 + place : Nat), content.text⟩ ∧
            file.script.newFile[place]? = some content) ∧
        file.deletions.map ChangedLine.content =
          (file.script.filterMap (Edit.changed? .removed)).map Line.text := by
  have readable : ∀ file ∈ lookalikes, file.Readable := by
    decide +kernel
  have unreturned : ∀ file ∈ lookalikes, ∀ edit ∈ file.script,
      edit.line.text.getLast? ≠ some '\r' := by
    decide +kernel
  exact ⟨readable, unreturned, changes_text_eq_insertions_deletions readable unreturned true⟩

end PatchSurvey.Diff
