import PatchSurvey.Text.Numeral

/-! # Written numbers

The decimal digits of a number are digits, at least one, and are read back as
that number. -/

namespace PatchSurvey.Text

theorem ofNat_ne_nil (n : Nat) : ofNat n ≠ [] :=
  Nat.toDigits_ne_nil

/-- The digits of core are digits here. -/
theorem isDigit_of_isDigit {c : Char} (h : c.isDigit = true) : isDigit c = true := by
  simp only [Char.isDigit, Bool.and_eq_true, decide_eq_true_eq] at h
  have low : c.toNat < 0x80 := by
    have nine := UInt32.le_iff_toNat_le.1 h.2
    exact Nat.lt_of_le_of_lt nine (by decide)
  have between : '0' ≤ c ∧ c ≤ '9' := h
  rw [isDigit, digitValue?, if_pos low, if_pos between]
  rfl

theorem isDigit_of_mem_ofNat {n : Nat} {c : Char} (h : c ∈ ofNat n) : isDigit c = true :=
  isDigit_of_isDigit (Nat.isDigit_of_mem_toDigits (by decide) (by decide) h)

/-- One more digit behind a row of digits. -/
theorem numeralValue_concat (digits : List Char) (c : Char) :
    numeralValue (digits ++ [c]) = 10 * numeralValue digits + (digitValue? c).getD 0 := by
  rw [numeralValue, List.foldl_append, numeralValue]
  rfl

/-- A written number is read back. -/
theorem numeralValue_ofNat (n : Nat) : numeralValue (ofNat n) = n := by
  induction n using Nat.strongRecOn with
  | _ n ih =>
      have unit (d : Nat) (small : d < 10) : ofNat d = [Nat.digitChar d] :=
        Nat.toDigits_of_lt_base small
      have value (d : Nat) (small : d < 10) : (digitValue? (Nat.digitChar d)).getD 0 = d := by
        rw [digitValue?_digitChar small, Option.getD_some]
      by_cases small : n < 10
      · rw [unit n small, ← List.nil_append [_], numeralValue_concat, value n small]
        simp [numeralValue]
      · have split : ofNat n = ofNat (n / 10) ++ [Nat.digitChar (n % 10)] :=
          Nat.toDigits_of_base_le (by decide) (Nat.not_lt.1 small)
        rw [split, numeralValue_concat, ih (n / 10) (by omega), value _ (by omega)]
        omega

theorem readNumeral_of_length_le {digits : Text} (short : digits.length ≤ numeralLimit) :
    readNumeral digits = .ok (numeralValue digits) := by
  rw [readNumeral, if_neg (Nat.not_lt.2 short)]

/-! ## Numbers by their digits -/

theorem isDigit_of_mem_digits {n : Nat} {c : Char} (h : c ∈ ofNat n) : c.isDigit = true :=
  Nat.isDigit_of_mem_toDigits (by decide) (by decide) h

/-- Only zero begins with zero. -/
theorem eq_zero_of_head?_ofNat {n : Nat} (head : (ofNat n).head? = some '0') : n = 0 := by
  induction n using Nat.strongRecOn with
  | _ n ih =>
      by_cases small : n < 10
      · have unit : ofNat n = [Nat.digitChar n] := Nat.toDigits_of_lt_base small
        have zero : ∀ d < 10, Nat.digitChar d = '0' → d = 0 := by decide
        rw [unit] at head
        exact zero n small (Option.some.inj head)
      · have split : ofNat n = ofNat (n / 10) ++ [Nat.digitChar (n % 10)] :=
          Nat.toDigits_of_base_le (by decide) (Nat.not_lt.1 small)
        obtain ⟨c, more, digits⟩ := List.exists_cons_of_ne_nil (ofNat_ne_nil (n / 10))
        rw [split, digits] at head
        have none := ih (n / 10) (by omega) (digits ▸ head)
        omega

theorem ofNat_injective : Function.Injective ofNat := by
  intro n m same
  rw [← numeralValue_ofNat n, same, numeralValue_ofNat]

theorem minus_not_mem_ofNat (n : Nat) : '-' ∉ ofNat n :=
  fun mem => absurd (isDigit_of_mem_ofNat mem) (by decide)

/-- A written integer tells its sign and its size. -/
theorem ofInt_injective : Function.Injective ofInt := by
  intro n m same
  have apart (size other : Nat) : ofNat size ≠ '-' :: ofNat other := by
    intro same
    apply minus_not_mem_ofNat size
    rw [same]
    exact List.mem_cons_self
  cases n with
  | ofNat n =>
      cases m with
      | ofNat m => exact congrArg Int.ofNat (ofNat_injective same)
      | negSucc m => exact absurd same (apart n (m + 1))
  | negSucc n =>
      cases m with
      | ofNat m => exact absurd same.symm (apart m (n + 1))
      | negSucc m =>
          have sizes := ofNat_injective (List.cons.inj same).2
          exact congrArg Int.negSucc (Nat.succ.inj sizes)

end PatchSurvey.Text
