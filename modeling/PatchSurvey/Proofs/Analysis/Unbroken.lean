import PatchSurvey.Proofs.Analysis.Isolation
import PatchSurvey.Proofs.Analysis.Provenance
import PatchSurvey.Proofs.ChangeSet.BoundaryPath
import PatchSurvey.Proofs.Path.Language
import PatchSurvey.Proofs.Text.Numeral

/-! # Texts of an analysis

The filename, the language and the recorded lines of an analysis are parts of
single lines, if the filename is not a hint that is broken itself. -/

namespace PatchSurvey.Analysis

open Hunk

/-- A path is broken by a line feed only if it is a hint that is. -/
theorem newline_not_mem_of_mem_pathOf {patch path : Text} {hint : Option Text}
    (plain : Path.target? patch = none → ∀ name ∈ hint, '\n' ∉ name)
    (mem : path ∈ pathOf patch hint) : '\n' ∉ path := by
  cases found : Path.target? patch with
  | some own =>
      simp only [pathOf, found] at mem
      obtain rfl := Option.some.inj mem
      exact Path.newline_not_mem_of_target? found
  | none =>
      cases hint with
      | none => simp [pathOf, found] at mem
      | some name =>
          cases name with
          | nil => simp [pathOf, found] at mem
          | cons c name =>
              simp only [pathOf, found] at mem
              obtain rfl := Option.some.inj mem
              exact plain found _ rfl

theorem slash_not_mem_languageOf (path : Option Text) : '/' ∉ languageOf path := by
  cases path with
  | none => decide
  | some path => exact Path.slash_not_mem_languageOf path

/-- No text of the analysis is broken by a line feed, and its language holds no slash. -/
structure Unbroken (analysis : Analysis) : Prop where
  filename : ∀ name ∈ analysis.filename, '\n' ∉ name
  language : '\n' ∉ analysis.language
  extension : '/' ∉ analysis.language
  recorded : ∀ check, ∀ entry ∈ (analysis.found check).entries, '\n' ∉ entry.content

theorem Unbroken.newline_not_mem_displayName {analysis : Analysis} (unbroken : Unbroken analysis) :
    '\n' ∉ analysis.displayName "unknown" := by
  rw [displayName]
  split
  · exact unbroken.filename _ ‹_›
  · decide

/-- The analysis of a text is unbroken if it does not take its filename from a broken hint. -/
theorem unbroken_of_ofPatch {aliases : Path.Aliases} {patch : Text} {hint : Option Text}
    {logged : Logged Analysis} (analyzed : ofPatch aliases (.text patch) hint = .ok logged)
    (plain : Path.target? patch = none → ∀ name ∈ hint, '\n' ∉ name) : Unbroken logged.value := by
  obtain ⟨text, added, deleted, same, recorded, -, rfl⟩ :=
    eq_ofChanges_of_ofPatch aliases hint analyzed
  obtain rfl := PatchInput.text.inj same
  have path : ∀ path ∈ pathOf patch hint, '\n' ∉ path :=
    fun path mem => newline_not_mem_of_mem_pathOf plain mem
  refine ⟨path, ?_, slash_not_mem_languageOf _, ?_⟩
  · show '\n' ∉ languageOf (pathOf patch hint)
    cases found : pathOf patch hint with
    | none => decide
    | some name => exact Path.newline_not_mem_languageOf (path name found)
  · intro check entry mem
    rw [found_ofChanges] at mem
    exact (plain_of_mem_lines_find recorded (List.mem_map_of_mem mem)).2

/-! ## Analyses without a hint from outside -/

theorem newline_not_mem_filename_fileOfSection (patch : Text) (place : Nat) :
    '\n' ∉ (BatchReport.fileOfSection patch place).filename := by
  rw [BatchReport.fileOfSection]
  cases named : ChangeSet.boundaryPath? patch with
  | some path => exact ChangeSet.newline_not_mem_of_boundaryPath? named
  | none =>
      have number : '\n' ∉ Text.ofNat place := by
        intro feed
        exact absurd (Text.isDigit_of_mem_ofNat feed) (by decide)
      exact List.not_mem_append (List.not_mem_append (by decide) number) (by decide)

/-- A text that comes without a hint is analyzed in this way, and so is each file of a change
set. -/
inductive Reported : Analysis → Prop
  | patch {aliases : Path.Aliases} {patch : Text} {logged : Logged Analysis}
      (analyzed : ofPatch aliases (.text patch) none = .ok logged) : Reported logged.value
  | changeSet {aliases : Path.Aliases} {diff : Text} {analysis : Analysis}
      (mem : analysis ∈ (BatchReport.ofDiff aliases diff).value.results) : Reported analysis

theorem unbroken_of_mem_results_ofDiff {aliases : Path.Aliases} {diff : Text} {analysis : Analysis}
    (mem : analysis ∈ (BatchReport.ofDiff aliases diff).value.results) : Unbroken analysis := by
  rw [BatchReport.ofDiff, BatchReport.results_ofFiles] at mem
  obtain ⟨file, among, made⟩ := List.mem_filterMap.1 mem
  obtain ⟨i, bound, rfl⟩ := List.mem_iff_getElem.1 among
  obtain ⟨logged, analyzed, rfl⟩ := FilePatch.exists_ofPatch_of_analysis? made
  simp only [BatchReport.filesOfDiff, List.getElem_zipWith] at analyzed
  apply unbroken_of_ofPatch analyzed
  intro _ name hint
  obtain rfl := Option.some.inj hint
  exact newline_not_mem_filename_fileOfSection _ _

theorem Reported.unbroken {analysis : Analysis} (reported : Reported analysis) :
    Unbroken analysis := by
  cases reported with
  | patch analyzed => exact unbroken_of_ofPatch analyzed fun _ name hint => by cases hint
  | changeSet mem => exact unbroken_of_mem_results_ofDiff mem

end PatchSurvey.Analysis
