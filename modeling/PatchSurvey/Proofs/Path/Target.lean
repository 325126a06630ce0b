import Mathlib.Data.List.Basic
import PatchSurvey.Path.Target
import PatchSurvey.Proofs.Hunk.Header
import PatchSurvey.Proofs.Text.Trim

/-! # Looking for the target path

The lines of a file header are passed until one names a target. A hunk header
ends the search up to the next boundary, so the lines of a hunk are never asked
for a path. -/

namespace PatchSurvey.Path

open Hunk

/-- A line that neither names a target nor begins or ends a file header. -/
structure Passed (line : Text) : Prop where
  noBoundary : isBoundary line = false
  noHeader : HeaderText.read? line = none
  noTarget : Text.startsWith "+++".toList (Text.trim line) = false

instance (line : Text) : Decidable (Passed line) :=
  decidable_of_iff
    (isBoundary line = false ∧ HeaderText.read? line = none ∧
      Text.startsWith "+++".toList (Text.trim line) = false)
    ⟨fun ⟨h₁, h₂, h₃⟩ => ⟨h₁, h₂, h₃⟩, fun ⟨h₁, h₂, h₃⟩ => ⟨h₁, h₂, h₃⟩⟩

/-- The old side of a file names no target. -/
theorem passed_of_minus (rest : Text) : Passed ('-' :: rest) where
  noBoundary := isBoundary_eq_false_of_head? (by simp)
  noHeader := HeaderText.read?_eq_none_of_head? (by simp)
  noTarget := by
    have visible : (['-'] : Text).getLast?.any Text.isBlank = false := by decide
    have kept : Text.trim ('-' :: rest) = '-' :: Text.trimEnd rest :=
      Text.trimEnd_append visible rest
    rw [kept]
    rfl

theorem targetAmong?_cons_of_boundary {line : Text} (boundary : isBoundary line = true)
    (inHeader : Bool) (rest : List Text) :
    targetAmong? inHeader (line :: rest) = targetAmong? true rest := by
  rw [targetAmong?, if_pos boundary]

theorem targetAmong?_cons_of_header {line : Text} {written : HeaderText}
    (header : HeaderText.read? line = some written) (inHeader : Bool) (rest : List Text) :
    targetAmong? inHeader (line :: rest) = targetAmong? false rest := by
  rw [targetAmong?, isBoundary_eq_false_of_read? header, header]
  rfl

/-- Passed lines do not matter. -/
theorem targetAmong?_append {lines : List Text} (passed : ∀ line ∈ lines, Passed line)
    (rest : List Text) : targetAmong? true (lines ++ rest) = targetAmong? true rest := by
  induction lines with
  | nil => rfl
  | cons line lines ih =>
      obtain ⟨⟨noBoundary, noHeader, noTarget⟩, others⟩ := List.forall_mem_cons.1 passed
      have noTail : Text.after? "+++".toList (Text.trim line) = none := by
        rw [Text.startsWith, Option.isSome_eq_false_iff, Option.isNone_iff_eq_none] at noTarget
        exact noTarget
      rw [List.cons_append, targetAmong?, noBoundary, noHeader, noTail]
      exact ih others

/-- The first line with the mark decides. -/
theorem targetAmong?_cons_of_mark (tail : Text) (rest : List Text) :
    targetAmong? true (("+++".toList ++ tail) :: rest) = ofTargetLine (Text.trimEnd tail) := by
  have noBoundary : isBoundary ("+++".toList ++ tail) = false :=
    isBoundary_eq_false_of_head? (by simp)
  have noHeader : HeaderText.read? ("+++".toList ++ tail) = none :=
    HeaderText.read?_eq_none_of_head? (by simp)
  have found : Text.after? "+++".toList (Text.trim ("+++".toList ++ tail)) =
      some (Text.trimEnd tail) := by
    have visible : "+++".toList.getLast?.any Text.isBlank = false := by decide
    have kept : Text.trim ("+++".toList ++ tail) = "+++".toList ++ Text.trimEnd tail :=
      Text.trimEnd_append visible tail
    rw [kept, Text.after?_append]
  rw [targetAmong?, noBoundary, noHeader, found]
  rfl

/-- Behind a hunk header nothing is looked for up to the next boundary. -/
theorem targetAmong?_false {lines : List Text} (plain : ∀ line ∈ lines, isBoundary line = false) :
    targetAmong? false lines = none := by
  induction lines with
  | nil => rfl
  | cons line lines ih =>
      obtain ⟨first, others⟩ := List.forall_mem_cons.1 plain
      rw [targetAmong?, first]
      simp [ih others]

/-- What stands behind a hunk header names no target, up to the next boundary. -/
theorem targetAmong?_append_cons_of_header {line : Text} {written : HeaderText}
    (header : HeaderText.read? line = some written) (inHeader : Bool) (before : List Text)
    {after others : List Text} (h₁ : ∀ row ∈ after, isBoundary row = false)
    (h₂ : ∀ row ∈ others, isBoundary row = false) :
    targetAmong? inHeader (before ++ line :: after) =
      targetAmong? inHeader (before ++ line :: others) := by
  induction before generalizing inHeader with
  | nil =>
      rw [List.nil_append, List.nil_append, targetAmong?_cons_of_header header,
        targetAmong?_cons_of_header header, targetAmong?_false h₁, targetAmong?_false h₂]
  | cons row before ih =>
      rw [List.cons_append, List.cons_append, targetAmong?, targetAmong?, ih, ih]

/-- The path behind the side mark is found, with or without a tab and more behind it. -/
theorem ofTargetLine_written {path after : Text} (some : path ≠ []) (visible : path.Visible)
    (untabbed : '\t' ∉ path) (present : path ≠ "/dev/null".toList)
    (tab : ∀ c ∈ after.head?, c = '\t') :
    ofTargetLine (Text.trimEnd (" b/".toList ++ path ++ after)) = .some path := by
  have last (before : Text) : (before ++ path).getLast?.any Text.isBlank = false := by
    rw [List.getLast?_append_of_ne_nil _ some]
    exact visible.last
  have stop : ∀ c ∈ (Text.trimEnd after).head?, c = '\t' := by
    intro c mem
    obtain ⟨behind, whole⟩ := Text.trimEnd_isPrefix after
    obtain ⟨kept, same⟩ := List.head?_eq_some_iff.1 mem
    apply tab
    rw [← whole, same]
    rfl
  have cut : (" b/".toList ++ path ++ Text.trimEnd after).takeWhile (· ≠ '\t') =
      " b/".toList ++ path :=
    Text.takeWhile_ne_append (List.not_mem_append (by decide) untabbed) stop
  have bare : Text.trim (" b/".toList ++ path) = "b/".toList ++ path :=
    Text.trimEnd_of_getLast? (last "b/".toList)
  rw [Text.trimEnd_append (last _), ofTargetLine, cut, bare, Text.dropMark, Text.after?_append,
    Option.getD_some, visible.trim, if_neg]
  exact not_or.2 ⟨some, present⟩

end PatchSurvey.Path
