import Mathlib.Data.List.Zip
import PatchSurvey.Analysis.Batch
import PatchSurvey.Proofs.ChangeSet.Returns
import PatchSurvey.Proofs.Path.Rows

/-! # Either kind of line ending

All that an analysis tells of a patch is read from its rows. Patches and change
sets that end their lines by a carriage return and a line feed are therefore
analyzed as if the carriage returns were not there. -/

namespace PatchSurvey

open Hunk Text

/-! ## Equal rows -/

section

variable {first second : Text} (same : rows first = rows second) (aliases : Path.Aliases)
include same

theorem Hunk.changes_eq_of_rows_eq (side : Side) : changes side first = changes side second := by
  rw [changes_eq_walk, changes_eq_walk, same]

theorem Analysis.pathOf_eq_of_rows_eq (hint : Option Text) :
    pathOf first hint = pathOf second hint := by
  simp only [pathOf, Path.target?_eq_targetAmong?_rows, same]

/-- Patches with the same rows have the same analysis, or none for the same reason. -/
theorem Analysis.ofPatch_eq_of_rows_eq (hint : Option Text) :
    ofPatch aliases (.text first) hint = ofPatch aliases (.text second) hint := by
  simp only [ofPatch, ofText, changes_eq_of_rows_eq same, pathOf_eq_of_rows_eq same]

/-- What comes of a section depends on its rows alone. -/
theorem BatchReport.outcome_fileOfSection_eq_of_rows_eq (place : Nat) :
    outcome aliases (fileOfSection first place) = outcome aliases (fileOfSection second place) := by
  have file (patch : Text) : fileOfSection patch place =
      ⟨(fileOfSection patch place).filename, .text patch, "modified".toList⟩ := rfl
  have named : (fileOfSection first place).filename = (fileOfSection second place).filename := by
    rw [fileOfSection, fileOfSection, ChangeSet.boundaryPath?_eq_of_rows_eq same]
  rw [file first, file second, named]
  simp only [outcome, Analysis.ofPatch_eq_of_rows_eq same]

end

/-! ## Carriage returns -/

namespace BatchReport

variable (aliases : Path.Aliases)

theorem ofFiles_eq_of_outcomes_eq {files others : List FilePatch}
    (same : files.map (outcome aliases) = others.map (outcome aliases)) :
    ofFiles aliases files = ofFiles aliases others := by
  rw [ofFiles, ofFiles, same]

/-- Each file of the change set comes to the same. -/
theorem map_outcome_filesOfDiff_withReturns {diff : Text} (bare : Unreturned diff) :
    (filesOfDiff (withReturns diff)).map (outcome aliases) =
      (filesOfDiff diff).map (outcome aliases) := by
  rw [filesOfDiff, filesOfDiff, ChangeSet.filePatches_withReturns, List.length_map,
    List.zipWith_map_left, List.map_zipWith, List.map_zipWith]
  apply List.zipWith_congr
  rw [List.forall₂_iff_zip]
  refine ⟨(List.length_range' ..).symm, fun {part place} mem => ?_⟩
  have found := (List.of_mem_zip mem).1
  have same := rows_withReturns (ChangeSet.unreturned_of_mem_filePatches bare found)
  exact outcome_fileOfSection_eq_of_rows_eq same aliases place

end BatchReport

/-- Carriage returns before the line feeds of a text without them change nothing in the report of it
as a change set, and nothing in the analysis of it as a patch. -/
theorem ofDiff_withReturns_and_ofPatch_withReturns (aliases : Path.Aliases) {text : Text}
    (bare : Unreturned text) :
    BatchReport.ofDiff aliases (withReturns text) = BatchReport.ofDiff aliases text ∧
      ∀ hint, Analysis.ofPatch aliases (.text (withReturns text)) hint =
        Analysis.ofPatch aliases (.text text) hint := by
  constructor
  · rw [BatchReport.ofDiff, BatchReport.ofDiff]
    apply BatchReport.ofFiles_eq_of_outcomes_eq
    exact BatchReport.map_outcome_filesOfDiff_withReturns aliases bare
  · intro hint
    exact Analysis.ofPatch_eq_of_rows_eq (rows_withReturns bare) aliases hint

/-- A preamble, a file that only its boundary line names, and one with a time behind its path. -/
def plainEndings : Text :=
  ("see below\ndiff --git a/x.py b/x.py\n@@ -1 +1,3 @@\n def f():\n+    \n+import y\n" ++
    "diff --git a/u v b/u v\n--- a/u v\n+++ b/u v\t2024\n@@ -3 +3 @@\n-a\n+b").toList

/-- No carriage return gets into its names, its lines or its matches. -/
theorem ofDiff_withReturns_plainEndings :
    Unreturned plainEndings ∧
      BatchReport.ofDiff Path.builtInAliases (withReturns plainEndings) =
        BatchReport.ofDiff Path.builtInAliases plainEndings ∧
      ∀ hint, Analysis.ofPatch Path.builtInAliases (.text (withReturns plainEndings)) hint =
        Analysis.ofPatch Path.builtInAliases (.text plainEndings) hint := by
  have bare : Unreturned plainEndings := by decide +kernel
  exact ⟨bare, ofDiff_withReturns_and_ofPatch_withReturns Path.builtInAliases bare⟩

end PatchSurvey
