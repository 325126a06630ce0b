import Mathlib.Tactic.ByContra
import PatchSurvey.Text.Case

/-! # Characters that case mapping leaves alone

Mapping to lower case makes letters only. A mark, a digit or a control character
is found in the lower-case form of a text only if the text has it. -/

namespace PatchSurvey.Text

/-- A character before all letters, other than the null character. -/
def IsUncased (c : Char) : Prop :=
  0 < c.toNat ∧ c.toNat < 0x41

instance (c : Char) : Decidable (IsUncased c) :=
  inferInstanceAs (Decidable (_ ∧ _))

/-- Every run of letters is mapped behind the marks and digits. -/
theorem le_shift_of_mem_lowerTable {run : CaseRun} (mem : run ∈ lowerTable) :
    0x41 ≤ run.first + run.shift := by
  have all : lowerTable.all (fun run => decide (0x41 ≤ run.first + run.shift)) = true := by
    decide +kernel
  exact of_decide_eq_true (Array.all_eq_true_iff_forall_mem.1 all run mem)

/-- A number that no character has is read as null. -/
theorem toNat_ofNat_eq_or (n : Nat) : (Char.ofNat n).toNat = n ∨ (Char.ofNat n).toNat = 0 := by
  by_cases valid : n.isValidChar
  · rw [Char.ofNat, dif_pos valid]
    exact Or.inl rfl
  · rw [Char.ofNat, dif_neg valid]
    exact Or.inr rfl

theorem not_isUncased_ofNat {n : Nat} (behind : 0x41 ≤ n) : ¬ IsUncased (Char.ofNat n) := by
  rintro ⟨positive, small⟩
  rcases toNat_ofNat_eq_or n with same | null <;> omega

theorem not_isUncased_shiftCase {c : Char} (moved : shiftCase lowerTable c ≠ c) :
    ¬ IsUncased (shiftCase lowerTable c) := by
  rw [shiftCase] at moved ⊢
  split
  · rename_i run found
    rw [found] at moved
    split
    · obtain ⟨mem, low, -⟩ := mem_and_holds_of_seek found
      apply not_isUncased_ofNat
      have := le_shift_of_mem_lowerTable mem
      omega
    · rename_i between
      simp [between] at moved
  · rename_i found
    simp [found] at moved

theorem eq_toLower_of_isUncased {c : Char} (ascii : c.toNat < 0x80)
    (uncased : IsUncased c.toLower) : c.toLower = c := by
  have all : ∀ n < 0x80, IsUncased (Char.ofNat n).toLower →
      (Char.ofNat n).toLower = Char.ofNat n := by decide
  have here := all c.toNat ascii
  rw [Char.ofNat_toNat] at here
  exact here uncased

theorem eq_of_mem_lowerChar {c d : Char} (uncased : IsUncased d) (mem : d ∈ lowerChar c) :
    d = c := by
  rw [lowerChar] at mem
  by_cases ascii : c.toNat < 0x80
  · rw [if_pos ascii] at mem
    obtain rfl := List.mem_singleton.1 mem
    exact eq_toLower_of_isUncased ascii uncased
  · rw [if_neg ascii] at mem
    by_cases dotted : c.toNat = 0x130
    · rw [if_pos dotted, List.mem_cons, List.mem_singleton] at mem
      rcases mem with rfl | rfl
      · exact absurd uncased (by decide)
      · exact absurd uncased (by decide)
    · rw [if_neg dotted] at mem
      rw [List.mem_singleton] at mem
      by_contra moved
      rw [mem] at moved uncased
      exact not_isUncased_shiftCase moved uncased

theorem mem_of_mem_lowerFrom {before text : Text} {c : Char} (uncased : IsUncased c)
    (mem : c ∈ lowerFrom before text) : c ∈ text := by
  induction text generalizing before with
  | nil => exact mem
  | cons d text ih =>
      rw [lowerFrom] at mem
      rcases List.mem_append.1 mem with form | later
      · by_cases sigma : d.toNat = 0x3A3
        · -- either form of a sigma is a letter
          have cased (final : Bool) :
              ¬ IsUncased (Char.ofNat (if final then 0x3C2 else 0x3C3)) := by
            cases final <;> decide
          rw [if_pos sigma] at form
          rw [List.mem_singleton.1 form] at uncased
          exact absurd uncased (cased _)
        · rw [if_neg sigma] at form
          exact List.mem_cons.2 (Or.inl (eq_of_mem_lowerChar uncased form))
      · exact List.mem_cons_of_mem _ (ih later)

/-- An uncased character of the lower-case form stands in the text. -/
theorem mem_of_mem_lower {text : Text} {c : Char} (uncased : IsUncased c)
    (mem : c ∈ lower text) : c ∈ text :=
  mem_of_mem_lowerFrom uncased mem

end PatchSurvey.Text
