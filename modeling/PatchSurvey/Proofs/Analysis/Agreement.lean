import PatchSurvey.Proofs.Analysis.Batch
import PatchSurvey.Proofs.ChangeSet.Changes

/-! # Two readers of a change set

The analyses of the sections together hold exactly the changes that one walk over
the whole change set records: none is lost, repeated, renumbered or moved. -/

namespace PatchSurvey

open ChangeSet Hunk

/-- The sections of a readable change set are readable. -/
theorem Hunk.Readable.of_mem_sections {diff part : Text} (readable : Readable diff)
    (mem : part ∈ sections diff) : Readable part := by
  intro line found written read
  rcases mem_lines_of_mem_sections mem found with found | rfl
  · exact readable line found written read
  · have plain : HeaderText.read? [] = none := rfl
    rw [plain] at read
    exact absurd read (Option.not_mem_none written)

/-- What is recorded for each of several patches is recorded for all. -/
theorem mapM_changes_of_forall₂ (side : Side) {patches : List Text} {α : Type}
    {field : α → List ChangedLine} {values : List α}
    (h : List.Forall₂ (fun patch value => changes side patch = .ok (field value)) patches values) :
    patches.mapM (changes side) = .ok (values.map field) := by
  induction h with
  | nil => rfl
  | cons first _ ih =>
      rw [List.mapM_cons, first, ih]
      rfl

/-- One walk over a change set, from its first boundary line on, records what the analyses of the
sections hold, one behind the other. -/
theorem changes_fromFirstBoundary_eq_results (aliases : Path.Aliases) {diff : Text}
    (boundary : ∃ line ∈ Text.lines diff, isBoundary line = true) (readable : Readable diff) :
    changes .added (fromFirstBoundary diff) =
        .ok ((BatchReport.ofDiff aliases diff).value.results.flatMap (·.added)) ∧
      changes .removed (fromFirstBoundary diff) =
        .ok ((BatchReport.ofDiff aliases diff).value.results.flatMap (·.deleted)) := by
  have patches := filePatches_eq_sections boundary
  have recorded : ∀ patch ∈ filePatches diff, ∀ side, ∃ lines, changes side patch = .ok lines := by
    intro patch mem side
    rw [patches] at mem
    exact exists_changes_eq_ok side (readable.of_mem_sections mem)
  obtain ⟨-, described⟩ := BatchReport.value_ofDiff aliases recorded
  rw [patches] at described
  have added := mapM_changes_of_forall₂ .added
    (described.imp fun _ _ ⟨_, describes⟩ => describes.added)
  have deleted := mapM_changes_of_forall₂ .removed
    (described.imp fun _ _ ⟨_, describes⟩ => describes.deleted)
  rw [changes_fromFirstBoundary, changes_fromFirstBoundary, added, deleted, List.flatMap,
    List.flatMap]
  exact ⟨rfl, rfl⟩

/-- A preamble with marks of its own, a section whose hunk is cut short, and another section. -/
def cutShortDiff : Text :=
  ("@@ -1 +1 @@\n+no change\ndiff --git a/x b/x\n@@ -1,3 +1,4 @@\n+a\n\n" ++
    "diff --git a/y b/y\n--- a/y\n+++ b/y\n@@ -7 +7 @@\n-b\n+++ c\n").toList

/-- Neither the preamble nor the broken promise makes the two readings differ. -/
theorem changes_cutShortDiff :
    (∃ line ∈ Text.lines cutShortDiff, isBoundary line = true) ∧ Readable cutShortDiff ∧
      changes .added (fromFirstBoundary cutShortDiff) =
        .ok ((BatchReport.ofDiff [] cutShortDiff).value.results.flatMap (·.added)) ∧
      changes .removed (fromFirstBoundary cutShortDiff) =
        .ok ((BatchReport.ofDiff [] cutShortDiff).value.results.flatMap (·.deleted)) := by
  have boundary : ∃ line ∈ Text.lines cutShortDiff, isBoundary line = true := by
    decide +kernel
  have readable : Readable cutShortDiff := by decide +kernel
  exact ⟨boundary, readable, changes_fromFirstBoundary_eq_results [] boundary readable⟩

end PatchSurvey
