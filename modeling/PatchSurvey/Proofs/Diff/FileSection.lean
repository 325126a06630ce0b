import PatchSurvey.Proofs.ChangeSet.BoundaryPath
import PatchSurvey.Proofs.ChangeSet.Parts
import PatchSurvey.Proofs.Diff.Hunks
import PatchSurvey.Proofs.Path.Target

/-! # Written change sets

A change set has one section for each file: a boundary line with both paths,
extended header lines, perhaps the names of both sides behind their marks, and
perhaps hunks. A walk over a section records the changes of its hunks. The path is
found on the `+++` line, or else on the boundary line. -/

namespace PatchSurvey.Diff

open Hunk

/-- The path of a file, as it can stand on a header line. -/
structure FilePath where
  text : Text
  ne_nil : text ≠ [] := by decide
  unbroken : '\n' ∉ text := by decide
  untabbed : '\t' ∉ text := by decide
  visible : text.Visible := by decide

/-- What stands behind the extended header lines. -/
inductive Target where
  /-- Nothing: the file has only been moved, its mode has changed, or it is binary. -/
  | unnamed
  /-- The names of both sides, the new one with a time behind a tab or without. -/
  | present (old : Line) (stamp : Option Line)
  /-- The file has been deleted. -/
  | deleted (old : Line)

namespace Target

/-- The path is named behind a mark. -/
def isPresent : Target → Bool
  | present _ _ => true
  | _ => false

def rows (path : FilePath) : Target → List Text
  | unnamed => []
  | present old stamp =>
      ["---".toList ++ old.text,
        "+++".toList ++ (" b/".toList ++ path.text ++ stamp.elim [] fun time => '\t' :: time.text)]
  | deleted old => ["---".toList ++ old.text, "+++ /dev/null".toList]

end Target

/-- The section of one file. -/
structure FileSection where
  oldPath : FilePath
  newPath : FilePath
  /-- Lines about modes, similarity, binary contents and the like. -/
  extended : List Line
  target : Target
  hunks : List WrittenHunk
  passed : ∀ line ∈ extended, Path.Passed line.text
  notNull : newPath.text ≠ "/dev/null".toList
  /-- A path that holds the mark between two paths stands behind a mark of its own. -/
  separable : target.isPresent = true ∨ ¬ ChangeSet.sideMark <:+: newPath.text

namespace FileSection

variable (file : FileSection)

/-- The lines between the boundary line and the hunks. -/
def headerRows : List Text :=
  file.extended.map Line.text ++ file.target.rows file.newPath

def rows : List Text :=
  ChangeSet.boundaryLine file.oldPath.text file.newPath.text ::
    (file.headerRows ++ file.hunks.flatMap WrittenHunk.rows)

def text : Text :=
  Text.unlines file.rows

/-- The changed lines of one side of each hunk, numbered from the new start of the hunk. -/
def changes (side : Side) : List ChangedLine :=
  file.hunks.flatMap fun hunk => hunk.changes side

/-- The headers of the hunks have no more digits than can be read. -/
def Readable : Prop :=
  ∀ hunk ∈ file.hunks, hunk.header.Readable

instance : Decidable file.Readable :=
  inferInstanceAs (Decidable (∀ hunk ∈ file.hunks, hunk.header.Readable))

end FileSection

/-- The sections of some files, with other lines before them. -/
def changeSet (preamble : List Line) (files : List FileSection) : Text :=
  Text.unlines (preamble.map Line.text) ++ files.flatMap FileSection.text

/-! ## Lines of a section -/

/-- A single line inside a section and before its hunks. -/
structure HeaderRow (row : Text) : Prop where
  noBoundary : isBoundary row = false
  noHeader : HeaderText.read? row = none
  unbroken : '\n' ∉ row

/-- The names of both sides stand before the hunks. -/
theorem Target.headerRow_of_mem_rows {target : Target} {path : FilePath} {row : Text}
    (mem : row ∈ target.rows path) : HeaderRow row := by
  have old (line : Line) : HeaderRow ("---".toList ++ line.text) :=
    ⟨isBoundary_eq_false_of_head? (by simp), HeaderText.read?_eq_none_of_head? (by simp),
      List.not_mem_append (by decide) line.unbroken⟩
  cases target with
  | unnamed => cases mem
  | present line stamp =>
      rcases List.mem_cons.1 mem with rfl | mem
      · exact old line
      · obtain rfl := List.mem_singleton.1 mem
        refine ⟨isBoundary_eq_false_of_head? (by simp),
          HeaderText.read?_eq_none_of_head? (by simp), ?_⟩
        have time : '\n' ∉ stamp.elim [] fun time => '\t' :: time.text := by
          cases stamp with
          | none => simp
          | some time => simp [time.unbroken]
        exact List.not_mem_append (by decide)
          (List.not_mem_append (List.not_mem_append (by decide) path.unbroken) time)
  | deleted line =>
      rcases List.mem_cons.1 mem with rfl | mem
      · exact old line
      · obtain rfl := List.mem_singleton.1 mem
        exact ⟨rfl, rfl, by decide⟩

namespace FileSection

variable {file : FileSection}

theorem headerRow_of_mem_headerRows {row : Text} (mem : row ∈ file.headerRows) :
    HeaderRow row := by
  rcases List.mem_append.1 mem with mem | mem
  · obtain ⟨line, found, rfl⟩ := List.mem_map.1 mem
    have passed := file.passed line found
    exact ⟨passed.noBoundary, passed.noHeader, line.unbroken⟩
  · exact Target.headerRow_of_mem_rows mem

theorem isBoundary_of_mem_hunks {row : Text} (mem : row ∈ file.hunks.flatMap WrittenHunk.rows) :
    isBoundary row = false := by
  obtain ⟨hunk, _, mem⟩ := List.mem_flatMap.1 mem
  exact WrittenHunk.isBoundary_of_mem_rows mem

theorem newline_not_mem_boundaryLine (old new : FilePath) :
    '\n' ∉ ChangeSet.boundaryLine old.text new.text :=
  List.not_mem_append (by decide) (List.not_mem_append (by decide)
    (List.not_mem_append old.unbroken (List.not_mem_append (by decide) new.unbroken)))

variable (file)

/-- Only the first line of a section is a boundary. -/
theorem isSection_rows : ChangeSet.IsSection file.rows := by
  refine .intro (ChangeSet.isBoundary_boundaryLine ..) ?_ ?_
  · intro row mem
    rcases List.mem_append.1 mem with mem | mem
    · exact (headerRow_of_mem_headerRows mem).noBoundary
    · exact isBoundary_of_mem_hunks mem
  · intro row mem
    rcases List.mem_cons.1 mem with rfl | mem
    · exact newline_not_mem_boundaryLine file.oldPath file.newPath
    · rcases List.mem_append.1 mem with mem | mem
      · exact (headerRow_of_mem_headerRows mem).unbroken
      · obtain ⟨hunk, _, mem⟩ := List.mem_flatMap.1 mem
        exact hunk.newline_not_mem_rows row mem

theorem lines_text : Text.lines file.text = file.rows ++ [[]] :=
  Text.lines_unlines file.isSection_rows.newline_not_mem

/-! ## What is read from a section -/

/-- A walk over a section records the changes of its hunks, each without the carriage return at its
end. -/
theorem changes_fileText {file : FileSection} (readable : file.Readable) (side : Side) :
    Hunk.changes side file.text = .ok ((file.changes side).map ChangedLine.dropReturn) := by
  have boundary : isBoundary
      (Text.dropReturn (ChangeSet.boundaryLine file.oldPath.text file.newPath.text)) = true := by
    rw [isBoundary_dropReturn, ChangeSet.isBoundary_boundaryLine]
  have header : run side .outside (file.headerRows.map Text.dropReturn) = .ok ([], .outside) :=
    run_outside side fun row mem => (headerRow_of_mem_headerRows mem).noHeader
  have idle : Cursor.outside.inBody = false := rfl
  obtain ⟨last, -, hunks⟩ := run_hunks side readable idle
  have whole : run side .outside (file.rows.map Text.dropReturn) =
      .ok ((file.changes side).map ChangedLine.dropReturn, last) := by
    rw [rows, List.map_cons, List.map_append]
    exact run_cons_of_ok side (visit_of_boundary side .outside boundary)
      (run_append_of_ok side header hunks)
  rw [text, ← Text.joinLines_append_nil]
  exact changes_joinLines_of_run side file.isSection_rows.newline_not_mem whole true

/-- The lines of the hunks name no target. -/
theorem targetAmong?_hunks :
    Path.targetAmong? true (file.hunks.flatMap WrittenHunk.rows ++ [[]]) = none := by
  have plain : ∀ row ∈ file.hunks.flatMap WrittenHunk.rows ++ [[]], isBoundary row = false := by
    intro row mem
    rcases List.mem_append.1 mem with mem | mem
    · exact isBoundary_of_mem_hunks mem
    · rw [List.mem_singleton.1 mem]
      rfl
  cases hunks : file.hunks with
  | nil => rfl
  | cons hunk others =>
      -- the first hunk header ends the file header, and no boundary opens another one
      rw [hunks, List.flatMap_cons, WrittenHunk.rows, List.cons_append, List.cons_append] at plain
      rw [List.flatMap_cons, WrittenHunk.rows, List.cons_append, List.cons_append,
        Path.targetAmong?_cons_of_header (HeaderText.read?_write hunk.numeric _)]
      exact Path.targetAmong?_false fun row mem => plain row (List.mem_cons_of_mem _ mem)

/-- The target of a section is the path that is named behind a mark. -/
theorem target?_text :
    Path.target? file.text = if file.target.isPresent then some file.newPath.text else none := by
  have extended : ∀ row ∈ file.extended.map Line.text, Path.Passed row :=
    List.forall_mem_map.2 file.passed
  have old (line : Line) : ∀ row ∈ ["---".toList ++ line.text], Path.Passed row := by
    intro row mem
    rw [List.mem_singleton.1 mem]
    exact Path.passed_of_minus ("--".toList ++ line.text)
  have behind := file.targetAmong?_hunks
  rw [Path.target?, lines_text, rows, List.cons_append,
    Path.targetAmong?_cons_of_boundary (ChangeSet.isBoundary_boundaryLine ..), headerRows,
    List.append_assoc, List.append_assoc, Path.targetAmong?_append extended]
  cases target : file.target with
  | unnamed => exact behind
  | present line stamp =>
      have tab : ∀ c ∈ (stamp.elim [] fun time => '\t' :: time.text : Text).head?, c = '\t' := by
        cases stamp <;> simp
      apply (Path.targetAmong?_append (old line) _).trans
      apply (Path.targetAmong?_cons_of_mark ..).trans
      exact Path.ofTargetLine_written file.newPath.ne_nil file.newPath.visible
        file.newPath.untabbed file.notNull tab
  | deleted line =>
      apply (Path.targetAmong?_append (old line) _).trans
      exact Path.targetAmong?_cons_of_mark " /dev/null".toList _

/-- The boundary line of a section names the new path. -/
theorem boundaryPath?_text (separable : ¬ ChangeSet.sideMark <:+: file.newPath.text) :
    ChangeSet.boundaryPath? file.text = some file.newPath.text := by
  have plain : ¬ ChangeSet.sideMark <:+: file.newPath.text.dropLast :=
    fun within => separable (within.trans (List.dropLast_prefix _).isInfix)
  rw [text, rows, Text.unlines_cons]
  exact ChangeSet.boundaryPath?_boundaryLine file.oldPath.ne_nil file.newPath.ne_nil
    (newline_not_mem_boundaryLine file.oldPath file.newPath) file.newPath.visible.last plain _

end FileSection

/-! ## The whole change set -/

/-- The patches of a written change set are its sections. -/
theorem filePatches_changeSet {preamble : List Line} {files : List FileSection}
    (noBoundary : ∀ line ∈ preamble, isBoundary line.text = false) (some : files ≠ []) :
    ChangeSet.filePatches (changeSet preamble files) = files.map FileSection.text := by
  have inner : ∀ row ∈ preamble.map Line.text, isBoundary row = false :=
    List.forall_mem_map.2 noBoundary
  have sections : ChangeSet.sections (changeSet preamble files) = files.map FileSection.text := by
    rw [changeSet, ChangeSet.sections_unlines_append newline_not_mem_of_mem_map_text inner]
    exact ChangeSet.sections_flatMap_unlines fun file _ => file.isSection_rows
  have boundary : ChangeSet.sections (changeSet preamble files) ≠ [] := by
    rw [sections]
    exact mt List.map_eq_nil_iff.1 some
  rw [ChangeSet.filePatches_eq_sections (ChangeSet.sections_ne_nil_iff.1 boundary), sections]

end PatchSurvey.Diff
