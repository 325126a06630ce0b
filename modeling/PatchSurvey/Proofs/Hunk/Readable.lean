import PatchSurvey.Proofs.Hunk.Walk
import PatchSurvey.Proofs.Text.Numeral

/-! # Readable hunk headers

The new start and the two counts of a header are read, the old start is not. A
walk ends well when those three numbers are short enough in every header. -/

namespace PatchSurvey

namespace Hunk

namespace HeaderText

/-- The numbers that are read have no more digits than can be read. -/
structure Readable (written : HeaderText) : Prop where
  newStart : written.new.start.length ≤ numeralLimit
  oldCount : ∀ count ∈ written.old.count, count.length ≤ numeralLimit
  newCount : ∀ count ∈ written.new.count, count.length ≤ numeralLimit

instance (written : HeaderText) : Decidable written.Readable :=
  decidable_of_iff
    (written.new.start.length ≤ numeralLimit ∧
      (∀ count ∈ written.old.count, count.length ≤ numeralLimit) ∧
      ∀ count ∈ written.new.count, count.length ≤ numeralLimit)
    ⟨fun ⟨h₁, h₂, h₃⟩ => ⟨h₁, h₂, h₃⟩, fun ⟨h₁, h₂, h₃⟩ => ⟨h₁, h₂, h₃⟩⟩

/-- What a header promises if its numbers can be read. -/
def value (written : HeaderText) : Header where
  newStart := Text.numeralValue written.new.start
  oldCount := written.old.count.elim 1 Text.numeralValue
  newCount := written.new.count.elim 1 Text.numeralValue

theorem countValue_of_length_le {count : Option Text}
    (short : ∀ digits ∈ count, digits.length ≤ numeralLimit) :
    countValue count = .ok (count.elim 1 Text.numeralValue) := by
  cases count with
  | none => rfl
  | some digits => exact Text.readNumeral_of_length_le (short digits rfl)

theorem promise_of_readable {written : HeaderText} (readable : written.Readable) :
    written.promise = .ok written.value := by
  rw [promise, Text.readNumeral_of_length_le readable.newStart,
    countValue_of_length_le readable.oldCount, countValue_of_length_le readable.newCount]
  rfl

end HeaderText

/-- All hunk headers among the lines are readable. -/
def ReadableLines (lines : List Text) : Prop :=
  ∀ line ∈ lines, ∀ written ∈ HeaderText.read? line, written.Readable

instance (lines : List Text) : Decidable (ReadableLines lines) :=
  inferInstanceAs (Decidable (∀ line ∈ lines, ∀ written ∈ HeaderText.read? line, written.Readable))

/-- All hunk headers of the patch are readable. -/
def Readable (patch : Text) : Prop :=
  ReadableLines (Text.lines patch)

instance (patch : Text) : Decidable (Readable patch) :=
  inferInstanceAs (Decidable (ReadableLines _))

/-- Carriage returns do not make a header unreadable. -/
theorem ReadableLines.dropReturn {lines : List Text} (readable : ReadableLines lines) :
    ReadableLines (lines.map Text.dropReturn) := by
  intro line mem written read
  obtain ⟨whole, found, rfl⟩ := List.mem_map.1 mem
  rw [HeaderText.read?_dropReturn] at read
  exact readable whole found written read

theorem Readable.rows {patch : Text} (readable : Readable patch) : ReadableLines (rows patch) :=
  ReadableLines.dropReturn readable

theorem exists_visit_eq_ok (side : Side) (cursor : Cursor) {line : Text}
    (readable : ∀ written ∈ HeaderText.read? line, written.Readable) :
    ∃ recorded next, visit side cursor line = .ok (recorded, next) := by
  cases read : HeaderText.read? line with
  | some written =>
      rw [visit_of_header side cursor read, HeaderText.promise_of_readable (readable written read)]
      exact ⟨none, .start written.value, rfl⟩
  | none =>
      cases boundary : isBoundary line with
      | true => exact ⟨none, .outside, visit_of_boundary side cursor boundary⟩
      | false =>
          cases cursor with
          | outside => exact ⟨none, .outside, visit_outside side read⟩
          | inside next old new => exact ⟨_, _, visit_inside side read boundary next old new⟩

/-- A run over readable headers ends well, wherever it begins. -/
theorem exists_run_eq_ok (side : Side) (cursor : Cursor) {lines : List Text}
    (readable : ReadableLines lines) :
    ∃ recorded last, run side cursor lines = .ok (recorded, last) := by
  induction lines generalizing cursor with
  | nil => exact ⟨[], cursor, rfl⟩
  | cons line rest ih =>
      obtain ⟨first, later⟩ := List.forall_mem_cons.1 readable
      obtain ⟨recorded, next, first⟩ := exists_visit_eq_ok side cursor first
      obtain ⟨more, last, others⟩ := ih next later
      exact ⟨recorded.toList ++ more, last, run_cons_of_ok side first others⟩

theorem exists_walk_eq_ok (side : Side) (cursor : Cursor) {lines : List Text}
    (readable : ReadableLines lines) : ∃ recorded, walk side cursor lines = .ok recorded := by
  obtain ⟨recorded, last, whole⟩ := exists_run_eq_ok side cursor readable
  exact ⟨recorded, by rw [walk_eq_run, whole]; rfl⟩

theorem exists_changes_eq_ok (side : Side) {patch : Text} (readable : Readable patch) :
    ∃ recorded, changes side patch = .ok recorded :=
  exists_walk_eq_ok side .outside readable.rows

end Hunk

end PatchSurvey
