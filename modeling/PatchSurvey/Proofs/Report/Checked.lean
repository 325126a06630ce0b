import PatchSurvey.Report.Fault

/-! # Checks that give a result

A check that is put together of others gives a result exactly if they all do, and else all
their faults in order. -/

namespace PatchSurvey.Checked

variable {α β : Type}

theorem under_eq_valid_iff {step : PathStep} {check : Checked α} {value : α} :
    check.under step = valid value ↔ check = valid value := by
  cases check <;> simp [under]

theorem map_eq_valid_iff {f : α → β} {check : Checked α} {value : β} :
    map f check = valid value ↔ ∃ source, check = valid source ∧ f source = value := by
  cases check <;> simp [map]

theorem both_eq_valid_iff {first : Checked (α → β)} {second : Checked α} {value : β} :
    both first second = valid value ↔
      ∃ f source, first = valid f ∧ second = valid source ∧ f source = value := by
  cases first <;> cases second <;> simp [both]

/-- All checks are made, and none may fail. -/
theorem all_eq_valid_iff {checks : List (Checked α)} {values : List α} :
    all checks = valid values ↔ checks = values.map valid := by
  induction checks generalizing values with
  | nil => cases values <;> simp [all]
  | cons check rest ih =>
      simp only [all, both_eq_valid_iff, map_eq_valid_iff, ih]
      constructor
      · rintro ⟨_, others, ⟨value, rfl, rfl⟩, rfl, rfl⟩
        rfl
      · intro whole
        cases values with
        | nil => cases whole
        | cons value values =>
            obtain ⟨first, others⟩ := List.cons.inj whole
            exact ⟨_, values, ⟨value, first, rfl⟩, others, rfl⟩

/-! ## Faults -/

/-- The faults that were found. -/
def faults : Checked α → List Fault
  | valid _ => []
  | invalid faults => faults

@[simp] theorem faults_valid (value : α) : (valid value).faults = [] := rfl

@[simp] theorem faults_fail (problem : Problem) : (fail problem : Checked α).faults = [⟨[], problem⟩] :=
  rfl

@[simp] theorem faults_both (first : Checked (α → β)) (second : Checked α) :
    (both first second).faults = first.faults ++ second.faults := by
  cases first <;> cases second <;> simp [both, faults]

end PatchSurvey.Checked
