/-! # Tables of code points

A table lists intervals of code points in increasing order. A look-up halves
the table until one interval is left. -/

namespace PatchSurvey.Text

/-- Halve the part of the table from `low` up to `high` until an interval holds `n`. -/
def seekBetween {α : Type} (interval : α → Nat × Nat) (table : Array α) (n : Nat) :
    Nat → Nat → Nat → Option α
  | 0, _, _ => none
  | fuel + 1, low, high =>
      if low < high then
        let middle := (low + high) / 2
        match table[middle]? with
        | none => none
        | some entry =>
            if n < (interval entry).1 then seekBetween interval table n fuel low middle
            else if (interval entry).2 < n then
              seekBetween interval table n fuel (middle + 1) high
            else some entry
      else none

/-- The entry whose interval holds `n`. -/
def seek {α : Type} (interval : α → Nat × Nat) (table : Array α) (n : Nat) : Option α :=
  seekBetween interval table n table.size 0 table.size

/-- The code point of `c` lies in one of the listed intervals. -/
def listed (table : Array (Nat × Nat)) (c : Char) : Bool :=
  (seek id table c.toNat).isSome

/-- A look-up only returns entries of the table whose interval holds the code point. -/
theorem mem_and_holds_of_seekBetween {α : Type} {interval : α → Nat × Nat} {table : Array α}
    {n fuel low high : Nat} {entry : α}
    (found : seekBetween interval table n fuel low high = some entry) :
    entry ∈ table ∧ (interval entry).1 ≤ n ∧ n ≤ (interval entry).2 := by
  induction fuel generalizing low high with
  | zero => simp [seekBetween] at found
  | succ fuel ih =>
      rw [seekBetween] at found
      split at found
      · simp only at found
        split at found
        · simp at found
        · rename_i middle here
          split at found
          · exact ih found
          · split at found
            · exact ih found
            · obtain rfl := Option.some.inj found
              exact ⟨Array.mem_of_getElem? here, by omega, by omega⟩
      · simp at found

theorem mem_and_holds_of_seek {α : Type} {interval : α → Nat × Nat} {table : Array α} {n : Nat}
    {entry : α} (found : seek interval table n = some entry) :
    entry ∈ table ∧ (interval entry).1 ≤ n ∧ n ≤ (interval entry).2 :=
  mem_and_holds_of_seekBetween found

/-- A listed code point lies in an interval of the table. -/
theorem exists_mem_of_listed {table : Array (Nat × Nat)} {c : Char} (h : listed table c = true) :
    ∃ interval ∈ table, interval.1 ≤ c.toNat ∧ c.toNat ≤ interval.2 := by
  obtain ⟨interval, found⟩ := Option.isSome_iff_exists.1 h
  exact ⟨interval, mem_and_holds_of_seek found⟩

end PatchSurvey.Text
