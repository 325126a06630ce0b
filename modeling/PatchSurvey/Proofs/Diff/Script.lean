import PatchSurvey.Hunk.Side
import PatchSurvey.Proofs.Text.Lines

/-! # Edit scripts

An edit script goes over an old file line by line: it keeps or deletes each line
and inserts lines between them. The old file, the new file and the changed lines
can all be read off the script. -/

namespace PatchSurvey

/-- The line without a carriage return at its end. -/
def ChangedLine.dropReturn (line : ChangedLine) : ChangedLine :=
  ⟨line.number, Text.dropReturn line.content⟩

namespace Diff

/-- The content of one line of a file. -/
structure Line where
  text : Text
  unbroken : '\n' ∉ text := by decide
deriving DecidableEq, Repr

theorem newline_not_mem_nil : '\n' ∉ ([] : Text) :=
  List.not_mem_nil

/-- The line without content. -/
def Line.empty : Line where
  text := []
  unbroken := newline_not_mem_nil

theorem newline_not_mem_of_mem_map_text {lines : List Line} :
    ∀ row ∈ lines.map Line.text, '\n' ∉ row :=
  List.forall_mem_map.2 fun line _ => line.unbroken

/-- One step of an edit script. -/
inductive Edit where
  | keep (line : Line)
  | delete (line : Line)
  | insert (line : Line)
deriving DecidableEq, Repr

namespace Edit

/-- The line that the step is about. -/
def line : Edit → Line
  | keep line => line
  | delete line => line
  | insert line => line

/-- The line in the old file. -/
def old? : Edit → Option Line
  | keep line => some line
  | delete line => some line
  | insert _ => none

/-- The line in the new file. -/
def new? : Edit → Option Line
  | keep line => some line
  | delete _ => none
  | insert line => some line

/-- The line, if it is changed on the given side. -/
def changed? : Side → Edit → Option Line
  | .added, insert line => some line
  | .removed, delete line => some line
  | _, _ => none

theorem line_eq_of_changed? {side : Side} {edit : Edit} {line : Line}
    (changed : edit.changed? side = some line) : edit.line = line := by
  cases side <;> cases edit <;> simp_all [Edit.changed?, Edit.line]

end Edit

/-- The steps over one file, in order. -/
abbrev Script := List Edit

namespace Script

/-- The file before the edit. -/
def oldFile (script : Script) : List Line :=
  script.filterMap Edit.old?

/-- The file after the edit. -/
def newFile (script : Script) : List Line :=
  script.filterMap Edit.new?

/-- The changed lines of one side, each with the number that the next new-file line has there.
The script begins before the new-file line `next`. -/
def changes (side : Side) (next : Nat) : Script → List ChangedLine
  | [] => []
  | edit :: rest =>
      ((edit.changed? side).map fun line => ⟨next, line.text⟩).toList ++
        changes side (next + (newFile [edit]).length) rest

@[simp] theorem oldFile_append (first second : Script) :
    oldFile (first ++ second) = oldFile first ++ oldFile second :=
  List.filterMap_append

@[simp] theorem newFile_append (first second : Script) :
    newFile (first ++ second) = newFile first ++ newFile second :=
  List.filterMap_append

theorem oldFile_cons (edit : Edit) (rest : Script) :
    oldFile (edit :: rest) = oldFile [edit] ++ oldFile rest :=
  oldFile_append [edit] rest

theorem newFile_cons (edit : Edit) (rest : Script) :
    newFile (edit :: rest) = newFile [edit] ++ newFile rest :=
  newFile_append [edit] rest

@[simp] theorem oldFile_keep (lines : List Line) : oldFile (lines.map .keep) = lines := by
  simp [oldFile, List.filterMap_map, Function.comp_def, Edit.old?]

@[simp] theorem newFile_keep (lines : List Line) : newFile (lines.map .keep) = lines := by
  simp [newFile, List.filterMap_map, Function.comp_def, Edit.new?]

@[simp] theorem filterMap_changed?_keep (side : Side) (lines : List Line) :
    (lines.map Edit.keep).filterMap (Edit.changed? side) = [] := by
  rw [List.filterMap_map]
  exact List.filterMap_eq_nil_iff.2 fun line _ => by cases side <;> rfl

theorem changes_append (side : Side) (next : Nat) (first second : Script) :
    changes side next (first ++ second) =
      changes side next first ++ changes side (next + (newFile first).length) second := by
  induction first generalizing next with
  | nil => rfl
  | cons edit rest ih =>
      rw [List.cons_append, changes, changes, ih, newFile_cons edit rest, List.length_append,
        List.append_assoc, Nat.add_assoc]

/-- The changed lines are those of the steps, in order. -/
theorem map_content_changes (side : Side) (next : Nat) (script : Script) :
    (changes side next script).map ChangedLine.content =
      (script.filterMap (Edit.changed? side)).map Line.text := by
  induction script generalizing next with
  | nil => rfl
  | cons edit rest ih =>
      rw [changes, List.map_append, ih, List.filterMap_cons]
      cases edit.changed? side <;> rfl

/-- Kept lines are no changes. -/
@[simp] theorem changes_keep (side : Side) (next : Nat) (lines : List Line) :
    changes side next (lines.map .keep) = [] := by
  induction lines generalizing next with
  | nil => rfl
  | cons line lines ih =>
      rw [List.map_cons, changes, ih]
      cases side <;> rfl

/-- Without new-file lines there is nothing to add. -/
theorem changes_added_of_newFile_eq_nil {script : Script} (empty : newFile script = [])
    (next : Nat) : changes .added next script = [] := by
  induction script generalizing next with
  | nil => rfl
  | cons edit rest ih =>
      rw [newFile_cons, List.append_eq_nil_iff] at empty
      rw [changes, ih empty.2]
      cases edit with
      | keep line => rfl
      | delete line => rfl
      | insert line => cases empty.1

/-- An added line stands in the new file at its number, counted from one. -/
theorem getElem?_newFile_of_mem_changes_added {script : Script} {next : Nat} {line : ChangedLine}
    (mem : line ∈ changes .added next script) :
    ∃ place content, line = ⟨(next + place : Nat), content.text⟩ ∧
      script.newFile[place]? = some content := by
  induction script generalizing next with
  | nil => cases mem
  | cons edit rest ih =>
      rw [changes] at mem
      rw [newFile_cons]
      rcases List.mem_append.1 mem with here | later
      · cases edit with
        | insert content => exact ⟨0, content, List.mem_singleton.1 here, rfl⟩
        | keep content => cases here
        | delete content => cases here
      · obtain ⟨place, content, rfl, found⟩ := ih later
        refine ⟨(newFile [edit]).length + place, content, by rw [Nat.add_assoc], ?_⟩
        rw [List.getElem?_append_right (Nat.le_add_right ..), Nat.add_sub_cancel_left, found]

end Script

end Diff

end PatchSurvey
