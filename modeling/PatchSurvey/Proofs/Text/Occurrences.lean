import PatchSurvey.Proofs.Text.Lines

/-! # Occurrences of a mark

A mark that is not broken by a line feed occurs in a text as often as in all its
lines together. -/

namespace PatchSurvey.Text

/-- The number of places where a mark begins that is not empty. -/
def occurrences (mark : Text) : Text → Nat
  | [] => 0
  | c :: text => (if mark <+: c :: text then 1 else 0) + occurrences mark text

variable {mark : Text}

theorem occurrences_eq_zero {text : Text} (absent : ¬ mark <:+: text) :
    occurrences mark text = 0 := by
  induction text with
  | nil => rfl
  | cons c text ih =>
      rw [List.infix_cons_iff, not_or] at absent
      rw [occurrences, if_neg absent.1, ih absent.2]

theorem occurrences_of_length_lt {text : Text} (short : text.length < mark.length) :
    occurrences mark text = 0 := by
  apply occurrences_eq_zero
  intro within
  have := within.length_le
  omega

theorem occurrences_self (some : mark ≠ []) : occurrences mark mark = 1 := by
  cases mark with
  | nil => exact absurd rfl some
  | cons c rest =>
      rw [occurrences, if_pos (List.prefix_refl _), occurrences_of_length_lt (by simp)]

/-- A mark without a line feed ends before one. -/
theorem prefix_append_newline_iff (unbroken : '\n' ∉ mark) (line rest : Text) :
    mark <+: line ++ '\n' :: rest ↔ mark <+: line := by
  constructor
  · intro start
    by_cases long : mark.length ≤ line.length
    · exact List.prefix_of_prefix_length_le start (List.prefix_append ..) long
    · have feed : line ++ ['\n'] <+: line ++ '\n' :: rest :=
        (List.prefix_append_right_inj line).2 ⟨rest, rfl⟩
      have within := List.prefix_of_prefix_length_le feed start (by simp; omega)
      exact absurd (within.subset (by simp)) unbroken
  · intro start
    exact start.trans (List.prefix_append ..)

theorem occurrences_append_newline (some : mark ≠ []) (unbroken : '\n' ∉ mark)
    (line rest : Text) :
    occurrences mark (line ++ '\n' :: rest) = occurrences mark line + occurrences mark rest := by
  induction line with
  | nil =>
      have none : ¬ mark <+: '\n' :: rest := fun start =>
        some (List.prefix_nil.1 ((prefix_append_newline_iff unbroken [] rest).1 start))
      simp only [List.nil_append, occurrences, if_neg none]
  | cons c line ih =>
      have start := prefix_append_newline_iff unbroken (c :: line) rest
      rw [List.cons_append] at start ⊢
      simp only [occurrences, ih, start, Nat.add_assoc]

/-- Where a mark stands in no other line than itself, it occurs once in each such line. -/
theorem occurrences_eq_count (some : mark ≠ []) (unbroken : '\n' ∉ mark) {text : Text}
    (alone : ∀ line ∈ lines text, mark <:+: line → line = mark) :
    occurrences mark text = (lines text).count mark := by
  have single {line : Text} (only : mark <:+: line → line = mark) :
      occurrences mark line = [line].count mark := by
    by_cases same : line = mark
    · rw [same, occurrences_self some, List.count_singleton_self]
    · have absent : mark ∉ [line] := mt List.mem_singleton.1 (Ne.symm same)
      rw [occurrences_eq_zero (mt only same), List.count_eq_zero.2 absent]
  induction text using line_induction with
  | last line plain =>
      rw [lines_of_not_mem plain] at alone ⊢
      exact single (alone line (List.mem_singleton_self line))
  | cons line rest plain ih =>
      rw [lines_line_append plain] at alone ⊢
      obtain ⟨first, later⟩ := List.forall_mem_cons.1 alone
      rw [occurrences_append_newline some unbroken, single first, ih later,
        ← List.count_append, List.singleton_append]

end PatchSurvey.Text
