import PatchSurvey.Proofs.Analysis.Batch
import PatchSurvey.Proofs.Diff.FileSection

/-! # Every file keeps its name

A written change set gets one analysis for each of its files, in order. The
analysis has the new path of the file, the language and the kind of file that
belong to this path, and the changes of the hunks of this file. -/

namespace PatchSurvey

namespace Diff.FileSection

/-- The analysis belongs to the file and has its changes, each without the carriage return at its
end. -/
structure Analyzed (file : FileSection) (analysis : Analysis) : Prop where
  filename : analysis.filename = some file.newPath.text
  language : analysis.language = Path.languageOf file.newPath.text
  isTestFile : analysis.isTestFile = Path.isTestFile file.newPath.text
  added : analysis.added = (file.changes .added).map ChangedLine.dropReturn
  deleted : analysis.deleted = (file.changes .removed).map ChangedLine.dropReturn

/-- The path of an analysis is the new path, from one of its two places. -/
theorem pathOf_text (file : FileSection) (place : Nat) :
    Analysis.pathOf file.text (some (BatchReport.fileOfSection file.text place).filename) =
      some file.newPath.text := by
  have target := file.target?_text
  cases present : file.target.isPresent with
  | true =>
      rw [present, if_pos rfl] at target
      simp only [Analysis.pathOf, target]
  | false =>
      have separable := file.separable.resolve_left (by simp [present])
      have named : (BatchReport.fileOfSection file.text place).filename = file.newPath.text := by
        rw [BatchReport.fileOfSection, file.boundaryPath?_text separable, Option.getD_some]
      obtain ⟨c, path, same⟩ := List.exists_cons_of_ne_nil file.newPath.ne_nil
      rw [present, if_neg Bool.false_ne_true] at target
      simp only [Analysis.pathOf, target, named, same]

/-- What describes the section of a file belongs to the file. -/
theorem analyzed_of_describes {file : FileSection} (readable : file.Readable) {place : Nat}
    {analysis : Analysis}
    (describes : Analysis.Describes file.text
      (BatchReport.fileOfSection file.text place).filename analysis) : file.Analyzed analysis := by
  have filename : analysis.filename = some file.newPath.text :=
    describes.filename.trans (file.pathOf_text place)
  have added := describes.added
  have deleted := describes.deleted
  rw [changes_fileText readable] at added deleted
  refine ⟨filename, ?_, ?_, (Except.ok.inj added).symm, (Except.ok.inj deleted).symm⟩
  · rw [describes.language, filename, Analysis.languageOf]
  · rw [describes.isTestFile, filename, Option.any_some]

end Diff.FileSection

namespace BatchReport

open Diff Hunk

/-- Every file of a written change set is analyzed under its new path and with the changes of its
own hunks, in order, and none is skipped. -/
theorem forall₂_analyzed_ofDiff_changeSet (aliases : Path.Aliases) {preamble : List Line}
    {files : List FileSection} (noBoundary : ∀ line ∈ preamble, isBoundary line.text = false)
    (some : files ≠ []) (readable : ∀ file ∈ files, file.Readable) :
    (ofDiff aliases (changeSet preamble files)).value.skipped = [] ∧
      List.Forall₂ FileSection.Analyzed files
        (ofDiff aliases (changeSet preamble files)).value.results := by
  have patches := filePatches_changeSet noBoundary some
  have recorded : ∀ patch ∈ ChangeSet.filePatches (changeSet preamble files), ∀ side, ∃ lines,
      Hunk.changes side patch = .ok lines := by
    intro patch mem side
    rw [patches] at mem
    obtain ⟨file, found, rfl⟩ := List.mem_map.1 mem
    exact ⟨_, FileSection.changes_fileText (readable file found) side⟩
  obtain ⟨skipped, described⟩ := value_ofDiff aliases recorded
  rw [patches, List.forall₂_map_left_iff] at described
  refine ⟨skipped, ?_⟩
  have both := (List.forall₂_and_left ..).2 ⟨readable, described⟩
  exact both.imp fun file analysis ⟨readable, _, describes⟩ =>
    FileSection.analyzed_of_describes readable describes

/-- A changed file whose path looks like two, a deleted file, and one that has only been renamed. -/
def mixedFiles : List FileSection := [
  { oldPath := .mk "x b/t_test.py".toList
    newPath := .mk "x b/t_test.py".toList
    extended := [.mk "index 1..2 100644".toList]
    target := .present (.mk " a/x b/t_test.py".toList) (some (.mk "2024-01-01".toList))
    hunks := [Block.written {
      skipped := []
      body := [
        ⟨.delete (.mk "-- a/x".toList), false, false⟩,
        ⟨.insert (.mk "++ b/x".toList), false, true⟩]
      oldCountOmitted := true
      newCountOmitted := false
      caption := .mk " g".toList } 0 0]
    passed := by decide +kernel
    notNull := by decide
    separable := by decide +kernel },
  { oldPath := .mk "y".toList
    newPath := .mk "y".toList
    extended := [.mk "deleted file mode 100644".toList]
    target := .deleted (.mk " a/y".toList)
    hunks := [Block.written {
      skipped := []
      body := [⟨.delete (.mk "diff --git a/u b/u".toList), false, false⟩]
      oldCountOmitted := true
      newCountOmitted := false
      caption := .mk " g".toList } 0 0]
    passed := by decide +kernel
    notNull := by decide
    separable := by decide +kernel },
  { oldPath := .mk "a b/i.png".toList
    newPath := .mk "i j.png".toList
    extended := [.mk "similarity index 100%".toList]
    target := .unnamed
    hunks := []
    passed := by decide +kernel
    notNull := by decide
    separable := by decide +kernel }]

/-- A line before them that looks like a target. -/
def strayTarget : List Line := [.mk "+++ b/q".toList]

/-- Each of the files keeps its name and its changes. -/
theorem forall₂_analyzed_ofDiff_mixedFiles :
    (∀ line ∈ strayTarget, isBoundary line.text = false) ∧ mixedFiles ≠ [] ∧
      (∀ file ∈ mixedFiles, file.Readable) ∧
      (ofDiff [] (changeSet strayTarget mixedFiles)).value.skipped = [] ∧
      List.Forall₂ FileSection.Analyzed mixedFiles
        (ofDiff [] (changeSet strayTarget mixedFiles)).value.results := by
  have noBoundary : ∀ line ∈ strayTarget, isBoundary line.text = false := by decide
  have some : mixedFiles ≠ [] := List.cons_ne_nil _ _
  have readable : ∀ file ∈ mixedFiles, file.Readable := by decide +kernel
  exact ⟨noBoundary, some, readable,
    forall₂_analyzed_ofDiff_changeSet [] noBoundary some readable⟩

end BatchReport

end PatchSurvey
