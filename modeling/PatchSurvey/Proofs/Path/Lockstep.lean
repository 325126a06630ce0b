import PatchSurvey.Proofs.Hunk.Outline
import PatchSurvey.Proofs.Path.Target

/-! # The search for a target in step with the walk

The search for the target path only knows whether it is in a file header. On every
line it is there exactly when a walk is outside of every hunk, so it never looks
at the body of a hunk. -/

namespace PatchSurvey.Path

open Hunk

/-- Whether a search is in a file header behind one more line. -/
def headerAfter (inHeader : Bool) (line : Text) : Bool :=
  if isBoundary line then true
  else if (HeaderText.read? line).isSome then false
  else inHeader

/-- What a search finds on a line: the rest of a `+++` line in a file header. -/
def found? (inHeader : Bool) (line : Text) : Option Text :=
  if inHeader = true ∧ ¬ Resets line then Text.after? "+++".toList (Text.trim line) else none

/-- The first line on which something is found ends the search. -/
theorem targetAmong?_cons (inHeader : Bool) (line : Text) (rest : List Text) :
    targetAmong? inHeader (line :: rest) =
      match found? inHeader line with
      | some tail => ofTargetLine tail
      | none => targetAmong? (headerAfter inHeader line) rest := by
  by_cases resets : Resets line
  · have nothing : found? inHeader line = none := if_neg fun inner => inner.2 resets
    rw [nothing]
    rcases resets with header | boundary
    · obtain ⟨written, read⟩ := Option.isSome_iff_exists.1 header
      rw [targetAmong?_cons_of_header read, headerAfter, isBoundary_eq_false_of_read? read, read]
      rfl
    · rw [targetAmong?_cons_of_boundary boundary, headerAfter, if_pos boundary]
  · obtain ⟨noHeader, noBoundary⟩ := not_resets_iff.1 resets
    rw [targetAmong?, headerAfter, found?, noHeader, noBoundary]
    cases inHeader with
    | true =>
        simp only [resets, not_false_eq_true, and_self, if_true]
        rfl
    | false => rfl

/-- A search that is in a file header exactly when the walk over the same lines is outside of every
hunk. Where the walk has failed nothing is asked for. -/
def InStep (before : List Text) (inHeader : Bool) : Prop :=
  ∀ cursor, cursorAfter before = .ok cursor → (inHeader = true ↔ cursor = .outside)

theorem inStep_nil : InStep [] true := by
  intro cursor start
  cases start
  simp

/-- One more line leaves the search in step with the walk. -/
theorem InStep.concat {before : List Text} {inHeader : Bool} (step : InStep before inHeader)
    (line : Text) : InStep (before ++ [line]) (headerAfter inHeader line) := by
  intro cursor after
  obtain ⟨former, here, after⟩ := cursorAfter_concat_eq_ok_iff.1 after
  by_cases resets : Resets line
  · rcases resets with header | boundary
    · obtain ⟨written, read⟩ := Option.isSome_iff_exists.1 header
      rw [advance_of_header former ((HeaderText.read?_dropReturn line).trans read)] at after
      rw [headerAfter, isBoundary_eq_false_of_read? read, read]
      cases promise : written.promise with
      | error fault => rw [promise] at after; cases after
      | ok header =>
          rw [promise] at after
          cases after
          simp [Cursor.start]
    · rw [advance_of_boundary former ((isBoundary_dropReturn line).trans boundary)] at after
      cases after
      simp [headerAfter, boundary]
  · rw [advance_of_not_resets former (mt resets_dropReturn.1 resets)] at after
    obtain ⟨noHeader, noBoundary⟩ := not_resets_iff.1 resets
    obtain rfl := Except.ok.inj after
    rw [Cursor.pass_eq_outside_iff, headerAfter, noHeader, noBoundary]
    exact step former here

/-- A search over rows with one outline finds the same path, or none in either. -/
theorem targetAmong?_eq_of_sameRows {before first second : List Text}
    (same : SameRows before first second) {inHeader : Bool} (step : InStep before inHeader) :
    targetAmong? inHeader first = targetAmong? inHeader second := by
  induction first generalizing before second inHeader with
  | nil =>
      obtain rfl := List.length_eq_zero_iff.1 same.length.symm
      rfl
  | cons a first ih =>
      obtain ⟨b, second, rfl⟩ := List.exists_cons_of_length_eq_add_one same.length.symm
      obtain ⟨line, rows⟩ := sameRows_cons_iff.1 same
      have rest := ih rows (step.concat a)
      rw [targetAmong?_cons, targetAmong?_cons]
      rcases line with rfl | ⟨⟨cursor, here, promised⟩, sign⟩
      · rw [rest]
      · -- in the body of a hunk the search is not in a file header
        have inside : inHeader = false := by
          cases inHeader with
          | false => rfl
          | true =>
              obtain rfl := (step cursor here).1 rfl
              cases promised
        obtain ⟨innerFirst, innerSecond⟩ := sign.not_resets
        have flag {line : Text} (inner : ¬ Resets line) : headerAfter false line = false := by
          rw [headerAfter, (not_resets_iff.1 inner).1, (not_resets_iff.1 inner).2]
          rfl
        subst inside
        rw [flag innerFirst] at rest
        rw [flag innerFirst, flag innerSecond, rest]
        rfl

theorem target?_eq_of_sameOutline {first second : Text} (same : SameOutline first second) :
    target? first = target? second :=
  targetAmong?_eq_of_sameRows same inStep_nil

end PatchSurvey.Path
