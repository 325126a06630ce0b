import PatchSurvey.Proofs.Hunk.Position

/-! # Patches with one outline

Two patches have the same outline if they differ only in the bodies of hunks, and
there only behind the signs. A walk then goes through the same cursors on either
patch and records the same places with the same numbers. -/

namespace PatchSurvey.Hunk

/-- Two lines that begin with the same sign of a hunk line. -/
def SameSign (first second : Text) : Prop :=
  ∃ sign ∈ ['+', '-', ' '], first.head? = some sign ∧ second.head? = some sign

instance (first second : Text) : Decidable (SameSign first second) :=
  List.decidableBEx _ ['+', '-', ' ']

/-- Two lines behind the same place: they are equal, or both stand in the body of a hunk under the
same sign. -/
def SameLine (before : List Text) (first second : Text) : Prop :=
  first = second ∨ InBody before ∧ SameSign first second

instance (before : List Text) (first second : Text) : Decidable (SameLine before first second) :=
  inferInstanceAs (Decidable (_ ∨ _))

/-- Two rows of lines that differ only behind the signs of hunk lines, when they follow the lines
`before`. -/
structure SameRows (before first second : List Text) : Prop where
  length : first.length = second.length
  line : ∀ i < first.length,
    SameLine (before ++ first.take i) (first.getD i []) (second.getD i [])

instance (before first second : List Text) : Decidable (SameRows before first second) :=
  decidable_of_iff
    (first.length = second.length ∧ ∀ i < first.length,
      SameLine (before ++ first.take i) (first.getD i []) (second.getD i []))
    ⟨fun ⟨h₁, h₂⟩ => ⟨h₁, h₂⟩, fun ⟨h₁, h₂⟩ => ⟨h₁, h₂⟩⟩

/-- Two patches of as many lines that differ only behind the signs of hunk lines. -/
def SameOutline (first second : Text) : Prop :=
  SameRows [] (Text.lines first) (Text.lines second)

instance (first second : Text) : Decidable (SameOutline first second) :=
  inferInstanceAs (Decidable (SameRows _ _ _))

/-- Such rows are compared from their first lines on. -/
theorem sameRows_cons_iff {before first second : List Text} {a b : Text} :
    SameRows before (a :: first) (b :: second) ↔
      SameLine before a b ∧ SameRows (before ++ [a]) first second := by
  constructor
  · rintro ⟨length, line⟩
    refine ⟨by simpa using line 0 (by simp), ⟨by simpa using length, fun i bound => ?_⟩⟩
    simpa using line (i + 1) (by simpa using bound)
  · rintro ⟨here, length, line⟩
    refine ⟨by simpa using length, fun i bound => ?_⟩
    cases i with
    | zero => simpa using here
    | succ i => simpa using line i (by simpa using bound)

/-! ## Steps -/

section

variable {a b : Text} (same : SameSign a b)
include same

theorem SameSign.dropReturn : SameSign (Text.dropReturn a) (Text.dropReturn b) := by
  obtain ⟨sign, mem, first, second⟩ := same
  have visible : sign ≠ '\r' := by
    rintro rfl
    exact absurd mem (by decide)
  obtain ⟨x, rfl⟩ := List.head?_eq_some_iff.1 first
  obtain ⟨y, rfl⟩ := List.head?_eq_some_iff.1 second
  exact ⟨sign, mem, by rw [Text.dropReturn_cons visible]; rfl,
    by rw [Text.dropReturn_cons visible]; rfl⟩

/-- The lines of a body neither begin a file nor a hunk. -/
theorem SameSign.not_resets : ¬ Resets a ∧ ¬ Resets b := by
  have inner {line : Text} {sign : Char} (mem : sign ∈ ['+', '-', ' '])
      (head : line.head? = some sign) : ¬ Resets line := by
    rw [not_resets_iff]
    refine ⟨HeaderText.read?_eq_none_of_head? ?_, isBoundary_eq_false_of_head? ?_⟩ <;>
    · rw [head]
      rintro ⟨⟩
      exact absurd mem (by decide)
  obtain ⟨sign, mem, first, second⟩ := same
  exact ⟨inner mem first, inner mem second⟩

/-- While lines are promised, the sign alone decides where the cursor goes and which number is
recorded. -/
theorem SameSign.step {cursor : Cursor} (promised : cursor.inBody = true) :
    advance cursor a = advance cursor b ∧
      ∀ side, (cursor.recorded? side a).map ChangedLine.number =
        (cursor.recorded? side b).map ChangedLine.number := by
  obtain ⟨innerFirst, innerSecond⟩ := same.not_resets
  obtain ⟨sign, mem, first, second⟩ := same
  obtain ⟨x, rfl⟩ := List.head?_eq_some_iff.1 first
  obtain ⟨y, rfl⟩ := List.head?_eq_some_iff.1 second
  simp only [advance_of_not_resets cursor innerFirst, advance_of_not_resets cursor innerSecond,
    Cursor.recorded?, promised]
  simp only [List.mem_cons, List.not_mem_nil, or_false] at mem
  rcases mem with rfl | rfl | rfl
  · exact ⟨rfl, fun side => by cases side <;> cases cursor <;> rfl⟩
  · exact ⟨rfl, fun side => by cases side <;> cases cursor <;> rfl⟩
  · exact ⟨rfl, fun side => by cases side <;> cases cursor <;> rfl⟩

end

/-- Lines under the same sign get the same mark. -/
theorem marks_cons_congr {side : Side} {cursor next : Cursor} {a b : Text}
    (stepFirst : advance cursor a = .ok next) (stepSecond : advance cursor b = .ok next)
    (number : (cursor.recorded? side a).map ChangedLine.number =
      (cursor.recorded? side b).map ChangedLine.number)
    {place : Nat} {first second : List Text}
    (rest : marks side next (place + 1) first = marks side next (place + 1) second) :
    marks side cursor place (a :: first) = marks side cursor place (b :: second) := by
  have here := congrArg (Option.map fun number => (place, number)) number
  simp only [Option.map_map, Function.comp_def] at here
  rw [marks_cons_of_ok stepFirst, marks_cons_of_ok stepSecond, rest, here]

/-- Walks over rows with one outline have the same marks, or fail alike. -/
theorem marks_eq_of_sameRows (side : Side) {before first second : List Text}
    (same : SameRows before first second) {cursor : Cursor}
    (here : cursorAfter before = .ok cursor) (place : Nat) :
    marks side cursor place (first.map Text.dropReturn) =
      marks side cursor place (second.map Text.dropReturn) := by
  induction first generalizing before second cursor place with
  | nil =>
      obtain rfl := List.length_eq_zero_iff.1 same.length.symm
      rfl
  | cons a first ih =>
      obtain ⟨b, second, rfl⟩ := List.exists_cons_of_length_eq_add_one same.length.symm
      obtain ⟨line, rows⟩ := sameRows_cons_iff.1 same
      have behind := cursorAfter_concat_of_ok here a
      rw [List.map_cons, List.map_cons]
      rcases line with rfl | ⟨⟨other, found, promised⟩, sign⟩
      · cases step : advance cursor (Text.dropReturn a) with
        | error fault => rw [marks_cons_of_error step, marks_cons_of_error step]
        | ok next =>
            exact marks_cons_congr step step rfl (ih rows (behind.trans step) (place + 1))
      · obtain rfl := Except.ok.inj (here.symm.trans found)
        obtain ⟨steps, numbers⟩ := sign.dropReturn.step promised
        have step := advance_of_not_resets cursor sign.dropReturn.not_resets.1
        exact marks_cons_congr step (steps ▸ step) (numbers side)
          (ih rows (behind.trans step) (place + 1))

end PatchSurvey.Hunk
