import PatchSurvey.Proofs.Diff.Script
import PatchSurvey.Proofs.Hunk.Readable
import PatchSurvey.Proofs.Text.Numeral

/-! # Written diffs

An edit script is grouped into hunks with kept lines around them and written as
a unified diff. The writer may leave out a count of one and the space of a blank
kept line, note a missing line feed, and put several files behind each other. -/

namespace PatchSurvey.Diff

open Hunk

/-- One line of a hunk and the way it is written. -/
structure BodyLine where
  edit : Edit
  /-- A kept line without visible content loses its space. -/
  bare : Bool
  /-- It is noted that the file ends here without a line feed. -/
  unended : Bool
deriving DecidableEq, Repr

/-- The note that a file ends without a line feed. -/
def unendedNote : Text :=
  "\\ No newline at end of file".toList

namespace BodyLine

/-- The line with its mark. -/
def row (line : BodyLine) : Text :=
  match line.edit with
  | .keep kept =>
      if line.bare && (Text.dropReturn kept.text).isEmpty then kept.text else ' ' :: kept.text
  | .delete deleted => '-' :: deleted.text
  | .insert inserted => '+' :: inserted.text

def rows (line : BodyLine) : List Text :=
  line.row :: if line.unended then [unendedNote] else []

end BodyLine

/-- A hunk whose header promises exactly the lines of its body. -/
structure WrittenHunk where
  header : HeaderText
  /-- What stands behind the second `@@`. -/
  caption : Line
  body : List BodyLine
  numeric : header.Numeric
  oldCount : header.value.oldCount = (Script.oldFile (body.map BodyLine.edit)).length
  newCount : header.value.newCount = (Script.newFile (body.map BodyLine.edit)).length

namespace WrittenHunk

variable (hunk : WrittenHunk)

/-- The part of an edit script that the hunk shows. -/
def script : Script :=
  hunk.body.map BodyLine.edit

def rows : List Text :=
  (hunk.header.write ++ hunk.caption.text) :: hunk.body.flatMap BodyLine.rows

/-- The changed lines of one side, numbered from the new start of the hunk. -/
def changes (side : Side) : List ChangedLine :=
  hunk.script.changes side hunk.header.value.newStart

end WrittenHunk

/-! ## Hunks of a script -/

/-- A hunk of an edit script, with the kept lines between it and the hunk before. -/
structure Block where
  skipped : List Line
  body : List BodyLine
  oldCountOmitted : Bool
  newCountOmitted : Bool
  caption : Line
deriving DecidableEq, Repr

namespace Block

/-- The part of the script that the hunk shows. -/
def script (block : Block) : Script :=
  block.body.map BodyLine.edit

/-- The part of the script from the hunk before up to the end of this one. -/
def wholeScript (block : Block) : Script :=
  block.skipped.map .keep ++ block.script

end Block

/-- The number of the first of `count` lines that follow `before` others; where there is none,
the number of the line before. -/
def firstNumber (before count : Nat) : Nat :=
  if count = 0 then before else before + 1

/-- One side of a hunk header. A count of one may be left out. -/
def range (before count : Nat) (omitted : Bool) : RangeText where
  start := Text.ofNat (firstNumber before count)
  count := if omitted && count == 1 then none else some (Text.ofNat count)

theorem isDigits_ofNat (n : Nat) : IsDigits (Text.ofNat n) :=
  ⟨Text.ofNat_ne_nil n, fun _ mem => Text.isDigit_of_mem_ofNat mem⟩

theorem numeric_range (before count : Nat) (omitted : Bool) :
    (range before count omitted).Numeric := by
  refine ⟨isDigits_ofNat _, ?_⟩
  intro digits written
  rw [range] at written
  split at written
  · cases written
  · exact Option.some.inj written ▸ isDigits_ofNat count

/-- The count is read as it was, written or not. -/
theorem value_count_range (before count : Nat) (omitted : Bool) :
    (range before count omitted).count.elim 1 Text.numeralValue = count := by
  rw [range]
  split
  · rename_i one
    simp only [Bool.and_eq_true, beq_iff_eq] at one
    exact one.2.symm
  · exact Text.numeralValue_ofNat count

/-- The hunk at its place: so many lines of either file stand before those that it shows. -/
def Block.written (block : Block) (oldBefore newBefore : Nat) : WrittenHunk where
  header := {
    old := range oldBefore block.script.oldFile.length block.oldCountOmitted
    new := range newBefore block.script.newFile.length block.newCountOmitted }
  caption := block.caption
  body := block.body
  numeric := ⟨numeric_range .., numeric_range ..⟩
  oldCount := value_count_range ..
  newCount := value_count_range ..

/-- The hunks at their places, the first behind `old` and `new` lines of the files. -/
def place (old new : Nat) : List Block → List WrittenHunk
  | [] => []
  | block :: rest =>
      block.written (old + block.skipped.length) (new + block.skipped.length) ::
        place (old + block.wholeScript.oldFile.length) (new + block.wholeScript.newFile.length) rest

/-! ## Files -/

/-- A line that no walk outside the body of a hunk records. -/
structure Quiet (row : Text) : Prop where
  noHeader : HeaderText.read? row = none
  notAdded : row.head? = some '+' → Text.startsWith "+++".toList row = true
  notRemoved : row.head? = some '-' → Text.startsWith "---".toList row = true

/-- What stands before the hunks of a file. -/
inductive Heading where
  /-- The hunks stand alone. -/
  | bare
  /-- A boundary line and further lines, such as the names of both sides. -/
  | boundary (names : Line) (more : List Line)
      (noHeader : ∀ line ∈ more, HeaderText.read? line.text = none)
  /-- The names of both sides behind their marks, with other lines before them. -/
  | marks (lead : List Line) (quiet : ∀ line ∈ lead, Quiet line.text) (old new : Line)

/-- The lines of a heading. -/
def Heading.rows : Heading → List Text
  | bare => []
  | boundary names more _ => (boundaryMark ++ names.text) :: more.map Line.text
  | marks lead _ old new =>
      lead.map Line.text ++ ["--- ".toList ++ old.text, "+++ ".toList ++ new.text]

/-- The edit script of one file in hunks. -/
structure FileDiff where
  heading : Heading
  blocks : List Block
  /-- The kept lines behind the last hunk. -/
  rest : List Line

namespace FileDiff

variable (file : FileDiff)

/-- The whole edit script. -/
def script : Script :=
  file.blocks.flatMap Block.wholeScript ++ file.rest.map .keep

def hunks : List WrittenHunk :=
  place 0 0 file.blocks

def rows : List Text :=
  file.heading.rows ++ file.hunks.flatMap WrittenHunk.rows

/-- The changed lines of one side of each hunk, numbered from the new start of the hunk. -/
def changes (side : Side) : List ChangedLine :=
  file.hunks.flatMap fun hunk => hunk.changes side

/-- The inserted lines with their numbers in the new file. -/
def insertions : List ChangedLine :=
  file.script.changes .added 1

/-- The deleted lines, each with the new start of its hunk plus the number of new-file lines that
the hunk shows before it. -/
def deletions : List ChangedLine :=
  file.changes .removed

/-- The headers of the hunks have no more digits than can be read. -/
def Readable : Prop :=
  ∀ hunk ∈ file.hunks, hunk.header.Readable

instance : Decidable file.Readable :=
  inferInstanceAs (Decidable (∀ hunk ∈ file.hunks, hunk.header.Readable))

end FileDiff

/-- The diff of several files; the last line feed may be missing. -/
def text (files : List FileDiff) (ended : Bool) : Text :=
  Text.joinLines (files.flatMap FileDiff.rows ++ if ended then [[]] else [])

end PatchSurvey.Diff
