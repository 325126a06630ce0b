import Mathlib.Data.List.Forall2
import PatchSurvey.Analysis.Batch
import PatchSurvey.Proofs.Analysis.Patch

/-! # Analyses of a change set

The analysis of a patch says what the two walks over it have recorded and which
file it belongs to. A change set of patches that can be read gets one analysis for
each of them, in order, and no file is skipped. -/

namespace PatchSurvey

/-- The analysis has the changes of the patch and belongs to the file that the patch or else the
hint names. -/
structure Analysis.Describes (patch hint : Text) (analysis : Analysis) : Prop where
  added : Hunk.changes .added patch = .ok analysis.added
  deleted : Hunk.changes .removed patch = .ok analysis.deleted
  filename : analysis.filename = Analysis.pathOf patch (some hint)
  language : analysis.language = Analysis.languageOf analysis.filename
  isTestFile : analysis.isTestFile = analysis.filename.any Path.isTestFile

namespace BatchReport

variable (aliases : Path.Aliases)

/-- A patch that both walks can read is analyzed, never skipped. -/
theorem exists_outcome_eq_ok {patch : Text}
    (recorded : ∀ side, ∃ lines, Hunk.changes side patch = .ok lines) (name status : Text) :
    ∃ analysis events, outcome aliases ⟨name, .text patch, status⟩ = ⟨.ok analysis, events⟩ ∧
      Analysis.Describes patch name analysis := by
  obtain ⟨added, h₁⟩ := recorded .added
  obtain ⟨deleted, h₂⟩ := recorded .removed
  let logged := Analysis.ofChanges aliases (Analysis.pathOf patch (some name)) added deleted
  refine ⟨logged.value, logged.events, ?_, ⟨h₁, h₂, rfl, rfl, rfl⟩⟩
  rw [outcome, Analysis.ofPatch_of_changes aliases (some name) h₁ h₂]
  rfl

/-- The report of files that are all analyzed. -/
theorem value_ofFiles {files : List FilePatch} {analyses : List Analysis}
    (h : List.Forall₂
      (fun file analysis => ∃ events, outcome aliases file = ⟨.ok analysis, events⟩)
      files analyses) :
    (ofFiles aliases files).value = ⟨analyses, []⟩ := by
  have outcomes : (files.map (outcome aliases)).map (·.value) = analyses.map .ok := by
    induction h with
    | nil => rfl
    | cons first _ ih =>
        obtain ⟨events, first⟩ := first
        simp only [List.map_cons, first, ih]
  simp only [ofFiles, Logged.gather, outcomes, ofOutcomes, List.filterMap_map]
  simp

/-- One analysis for each patch of a change set that the walks can read. -/
theorem value_ofDiff {diff : Text}
    (recorded : ∀ patch ∈ ChangeSet.filePatches diff, ∀ side, ∃ lines,
      Hunk.changes side patch = .ok lines) :
    (ofDiff aliases diff).value.skipped = [] ∧
      List.Forall₂ (fun patch analysis => ∃ place,
          Analysis.Describes patch (fileOfSection patch place).filename analysis)
        (ChangeSet.filePatches diff) (ofDiff aliases diff).value.results := by
  have numbered (patches : List Text)
      (recorded : ∀ patch ∈ patches, ∀ side, ∃ lines, Hunk.changes side patch = .ok lines)
      (place : Nat) : ∃ analyses,
        List.Forall₂ (fun file analysis => ∃ events, outcome aliases file = ⟨.ok analysis, events⟩)
          (List.zipWith fileOfSection patches (List.range' place patches.length)) analyses ∧
        List.Forall₂ (fun patch analysis => ∃ place,
          Analysis.Describes patch (fileOfSection patch place).filename analysis)
          patches analyses := by
    induction patches generalizing place with
    | nil => exact ⟨[], .nil, .nil⟩
    | cons patch patches ih =>
        obtain ⟨first, others⟩ := List.forall_mem_cons.1 recorded
        obtain ⟨analysis, events, outcome, describes⟩ := exists_outcome_eq_ok aliases first
          (fileOfSection patch place).filename "modified".toList
        obtain ⟨analyses, h₁, h₂⟩ := ih others (place + 1)
        exact ⟨analysis :: analyses, .cons ⟨events, outcome⟩ h₁, .cons ⟨place, describes⟩ h₂⟩
  obtain ⟨analyses, h₁, h₂⟩ := numbered (ChangeSet.filePatches diff) recorded 1
  rw [ofDiff, filesOfDiff, value_ofFiles aliases h₁]
  exact ⟨rfl, h₂⟩

end BatchReport

end PatchSurvey
