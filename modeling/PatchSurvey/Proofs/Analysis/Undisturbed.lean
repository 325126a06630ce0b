import PatchSurvey.Proofs.Analysis.Patch
import PatchSurvey.Proofs.Path.FileHeader

/-! # What a content cannot disturb

The content behind the signs of a hunk decides neither the file of a patch nor
the places and the numbers of its changes. A line of a file header decides
nothing about the changes. -/

namespace PatchSurvey

namespace Hunk

/-- Two patches whose changes of one side are refused for the same reason, or stand at the same
places under the same numbers. -/
inductive SamePlaces (side : Side) (first second : Text) : Prop
  | refused (fault : NumeralTooLong) (h₁ : changes side first = .error fault)
      (h₂ : changes side second = .error fault)
  | read (found : List (Nat × Int))
      (h₁ : changes side first = .ok (found.map (changedAt (rows first))))
      (h₂ : changes side second = .ok (found.map (changedAt (rows second))))

/-- No line with the sign of the side is another in the second patch. -/
def KeepsSigned (side : Side) (first second : Text) : Prop :=
  ∀ i < (Text.lines first).length,
    (Text.lines first).getD i [] ≠ (Text.lines second).getD i [] →
      ((Text.lines first).getD i []).head? ≠ some side.sign

instance (side : Side) (first second : Text) : Decidable (KeepsSigned side first second) :=
  inferInstanceAs (Decidable (∀ i < _, _))

variable {first second : Text} (same : SameOutline first second) (side : Side)
include same

theorem SameOutline.marks_eq :
    marks side .outside 0 (rows first) = marks side .outside 0 (rows second) :=
  marks_eq_of_sameRows side same cursorAfter_nil 0

theorem SameOutline.samePlaces : SamePlaces side first second := by
  have h₁ := changes_eq_marks side first
  have h₂ := changes_eq_marks side second
  rw [same.marks_eq side] at h₁
  cases found : marks side .outside 0 (rows second) with
  | error fault =>
      rw [found] at h₁ h₂
      exact .refused fault h₁ h₂
  | ok places =>
      rw [found] at h₁ h₂
      exact .read places h₁ h₂

/-- Where no line of the side is another, the changes of the side are the same. -/
theorem SameOutline.changes_eq (kept : KeepsSigned side first second) :
    changes side first = changes side second := by
  rw [changes_eq_marks, changes_eq_marks, same.marks_eq side]
  cases found : marks side .outside 0 (rows second) with
  | error fault => rfl
  | ok places =>
      refine congrArg Except.ok (List.map_congr_left fun mark mem => ?_)
      have foundFirst : marks side .outside ([] : List Text).length (rows first) = .ok places :=
        (same.marks_eq side).trans found
      obtain ⟨content, row⟩ := exists_sign_of_mem_marks foundFirst mem
      obtain ⟨line, here, dropped⟩ : ∃ line, (Text.lines first)[mark.1]? = some line ∧
          Text.dropReturn line = side.sign :: content := by
        simpa [rows] using row
      have unsigned : ([side.sign] : Text).getLast? ≠ some '\r' := by cases side <;> decide
      obtain ⟨rest, rfl⟩ :=
        (Text.exists_dropReturn_eq_append_iff unsigned line).1 ⟨content, dropped⟩
      have unchanged : (Text.lines first).getD mark.1 [] = (Text.lines second).getD mark.1 [] := by
        obtain ⟨bound, -⟩ := List.getElem?_eq_some_iff.1 here
        by_contra other
        exact kept mark.1 bound other (by rw [List.getD_eq_getElem?_getD, here]; rfl)
      rw [changedAt, changedAt, rows_getD, rows_getD, unchanged]

end Hunk

namespace Analysis

/-- Two analyses of one file, whatever has changed in it. -/
structure SameFile (first second : Analysis) : Prop where
  filename : first.filename = second.filename
  language : first.language = second.language
  isTestFile : first.isTestFile = second.isTestFile
  supported : ∀ check, (first.found check).supported = (second.found check).supported
  languageSupported : first.languageSupported = second.languageSupported

/-- Two patches that both have no analysis for the same reason, or have analyses of one file, with
the same matches if no added line is another. -/
inductive Alike (aliases : Path.Aliases) (hint : Option Text) (first second : Text) : Prop
  | refused (error : AnalysisError) (h₁ : ofPatch aliases (.text first) hint = .error error)
      (h₂ : ofPatch aliases (.text second) hint = .error error)
  | analyzed (a b : Logged Analysis) (h₁ : ofPatch aliases (.text first) hint = .ok a)
      (h₂ : ofPatch aliases (.text second) hint = .ok b) (file : SameFile a.value b.value)
      (matching : Hunk.KeepsSigned .added first second →
        ∀ check, a.value.found check = b.value.found check)

variable (aliases : Path.Aliases)

/-- Whether a check has a table does not depend on the changes. -/
theorem supported_find (check : Check) (key : Text) (added : List ChangedLine) :
    (check.find key added).value.supported = (Language.ofTag? key).isSome := by
  rw [Check.find]
  cases Language.ofTag? key <;> rfl

theorem found_ofChanges (path : Option Text) (added deleted : List ChangedLine) (check : Check) :
    (ofChanges aliases path added deleted).value.found check =
      (check.find (Path.resolve aliases (languageOf path)) added).value := by
  cases check <;> rfl

/-- The file of an analysis depends on the path alone. -/
theorem sameFile_ofChanges (path : Option Text) (added deleted added' deleted' : List ChangedLine) :
    SameFile (ofChanges aliases path added deleted).value
      (ofChanges aliases path added' deleted').value := by
  have supported (check : Check) :
      ((ofChanges aliases path added deleted).value.found check).supported =
        ((ofChanges aliases path added' deleted').value.found check).supported := by
    rw [found_ofChanges, found_ofChanges, supported_find, supported_find]
  refine ⟨rfl, rfl, rfl, supported, ?_⟩
  simp only [languageSupported, unsupportedChecks, supported]

/-- Patches with one outline are analyzed alike under every hint. -/
theorem alike_of_sameOutline {first second : Text} (same : Hunk.SameOutline first second)
    (hint : Option Text) : Alike aliases hint first second := by
  have path : pathOf first hint = pathOf second hint := by
    simp only [pathOf, Path.target?_eq_of_sameOutline same]
  cases same.samePlaces .added with
  | refused fault h₁ h₂ =>
      exact .refused _ (ofPatch_of_refused aliases hint h₁) (ofPatch_of_refused aliases hint h₂)
  | read added added₁ added₂ =>
      cases same.samePlaces .removed with
      | refused fault h₁ h₂ =>
          exact .refused _ (ofPatch_of_refused aliases hint h₁) (ofPatch_of_refused aliases hint h₂)
      | read deleted deleted₁ deleted₂ =>
          refine .analyzed _ _ (ofPatch_of_changes aliases hint added₁ deleted₁)
            (ofPatch_of_changes aliases hint added₂ deleted₂) ?_ ?_
          · rw [path]
            exact sameFile_ofChanges ..
          · intro kept check
            have unchanged : Except.ok _ = Except.ok _ :=
              added₁.symm.trans ((same.changes_eq .added kept).trans added₂)
            rw [found_ofChanges, found_ofChanges, path, Except.ok.inj unchanged]

end Analysis

open Hunk

/-- What stands behind the signs of hunk lines decides neither the target path nor where changes
stand and how they are numbered, and so not the file of an analysis. What stands on a line of a file
header decides nothing about the changes. -/
theorem alike_of_sameOutline_and_changes_set :
    (∀ first second : Text, SameOutline first second →
      Path.target? first = Path.target? second ∧ (∀ side, SamePlaces side first second) ∧
        ∀ aliases hint, Analysis.Alike aliases hint first second) ∧
    ∀ (patch line new : Text) (i : Nat), (Text.lines patch)[i]? = some line →
      Path.InFileHeader ((Text.lines patch).take i) → ¬ Resets line → '\n' ∉ new → ¬ Resets new →
        ∀ side, changes side (Text.joinLines ((Text.lines patch).set i new)) =
          changes side patch := by
  constructor
  · intro first second same
    exact ⟨Path.target?_eq_of_sameOutline same, same.samePlaces,
      fun aliases hint => Analysis.alike_of_sameOutline aliases same hint⟩
  · intro patch line new i place header inner unbroken innerNew side
    exact Path.changes_set_of_inFileHeader side place header inner unbroken innerNew

/-- A patch of one hunk. -/
def plainPatch : Text :=
  ("diff --git a/x.py b/x.py\n--- a/x.py\n+++ b/x.py\n@@ -1,3 +1,3 @@\n" ++
    " keep\n-old\n+new\n tail").toList

/-- The same hunk with contents that look like marks. -/
def disguisedPatch : Text :=
  ("diff --git a/x.py b/x.py\n--- a/x.py\n+++ b/x.py\n@@ -1,3 +1,3 @@\n" ++
    " @@ -9 +9 @@\n--- a/y.rb\n+++ b/y.rb\n tail").toList

/-- The contents do not matter, and neither does a second target in the file header. -/
theorem alike_disguisedPatch :
    SameOutline plainPatch disguisedPatch ∧
      Path.target? plainPatch = Path.target? disguisedPatch ∧
      (∀ side, SamePlaces side plainPatch disguisedPatch) ∧
      (∀ aliases hint, Analysis.Alike aliases hint plainPatch disguisedPatch) ∧
      (Text.lines plainPatch)[1]? = some "--- a/x.py".toList ∧
      Path.InFileHeader ((Text.lines plainPatch).take 1) ∧ ¬ Resets "--- a/x.py".toList ∧
      '\n' ∉ "+++ b/y.rb".toList ∧ ¬ Resets "+++ b/y.rb".toList ∧
      ∀ side, changes side (Text.joinLines ((Text.lines plainPatch).set 1 "+++ b/y.rb".toList)) =
        changes side plainPatch := by
  have same : SameOutline plainPatch disguisedPatch := by decide +kernel
  obtain ⟨target, places, alike⟩ := alike_of_sameOutline_and_changes_set.1 _ _ same
  have place : (Text.lines plainPatch)[1]? = some "--- a/x.py".toList := by decide
  have header : Path.InFileHeader ((Text.lines plainPatch).take 1) :=
    ⟨["diff --git a/x.py b/x.py".toList], [], by decide, Or.inr ⟨_, rfl, by decide⟩, by simp⟩
  have inner : ¬ Resets "--- a/x.py".toList := by decide
  have unbroken : '\n' ∉ "+++ b/y.rb".toList := by decide
  have innerNew : ¬ Resets "+++ b/y.rb".toList := by decide
  exact ⟨same, target, places, alike, place, header, inner, unbroken, innerNew,
    alike_of_sameOutline_and_changes_set.2 _ _ _ 1 place header inner unbroken innerNew⟩

end PatchSurvey
