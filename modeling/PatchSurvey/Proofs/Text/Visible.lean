import Mathlib.Data.List.TakeWhile
import PatchSurvey.Proofs.Text.Trim

/-! # Visible characters

There are few blank characters, so whether a class of characters is free of them
can be computed. A text is more than blanks exactly if something is left of it when
it is trimmed. -/

namespace PatchSurvey.Text

/-- All blank characters. -/
def blankCharacters : List Char :=
  (List.range' 0x09 5 ++ List.range' 0x1C 5 ++ blankTable.toList.flatMap fun interval =>
    List.range' interval.1 (interval.2 + 1 - interval.1)).map Char.ofNat

theorem mem_blankCharacters_of_isBlank {c : Char} (blank : isBlank c = true) :
    c ∈ blankCharacters := by
  refine List.mem_map.2 ⟨c.toNat, ?_, Char.ofNat_toNat c⟩
  rw [isBlank] at blank
  split at blank
  · simp only [Bool.or_eq_true, beq_iff_eq, Bool.and_eq_true, decide_eq_true_eq] at blank
    apply List.mem_append_left
    rw [List.mem_append, List.mem_range'_1, List.mem_range'_1]
    rcases blank with (rfl | control) | separator
    · exact Or.inr (by decide)
    · omega
    · omega
  · obtain ⟨interval, mem, low, high⟩ := exists_mem_of_listed blank
    apply List.mem_append_right
    refine List.mem_flatMap.2 ⟨interval, Array.mem_toList_iff.2 mem, ?_⟩
    rw [List.mem_range'_1]
    omega

/-- A class that is free of all blank characters refuses each of them. -/
theorem refuses_of_isBlank {accepts : Char → Bool}
    (free : (blankCharacters.all fun c => !accepts c) = true) {c : Char} (blank : isBlank c = true) :
    accepts c = false := by
  rw [List.all_eq_true] at free
  simpa using free c (mem_blankCharacters_of_isBlank blank)

theorem not_mem_of_isBlank {c : Char} (blank : isBlank c = true) {text : Text}
    (visible : ∀ c ∈ text, isBlank c = false) : c ∉ text := by
  intro mem
  rw [visible c mem] at blank
  cases blank

/-- The text has a character that is no blank. -/
def HasVisible (text : Text) : Prop :=
  ∃ c ∈ text, isBlank c = false

theorem HasVisible.mono {part whole : Text} (visible : part.HasVisible) (within : part ⊆ whole) :
    whole.HasVisible := by
  obtain ⟨c, mem, seen⟩ := visible
  exact ⟨c, within mem, seen⟩

/-- Only blanks leave nothing at either end. -/
theorem trimStart_eq_nil_iff {text : Text} : trimStart text = [] ↔ ¬ text.HasVisible := by
  rw [trimStart, List.dropWhile_eq_nil_iff, HasVisible]
  simp

theorem trimEnd_eq_nil_iff {text : Text} : trimEnd text = [] ↔ ¬ text.HasVisible := by
  rw [trimEnd, List.reverse_eq_nil_iff, List.dropWhile_eq_nil_iff, HasVisible]
  simp

theorem hasVisible_trimStart_iff {text : Text} :
    (trimStart text).HasVisible ↔ text.HasVisible := by
  constructor
  · intro visible
    exact visible.mono (List.dropWhile_suffix isBlank).subset
  · intro visible
    have some : trimStart text ≠ [] := mt trimStart_eq_nil_iff.1 (not_not.2 visible)
    exact ⟨_, List.head_mem some, List.head_dropWhile_not ..⟩

/-- Something is left of a text exactly if it has a visible character. -/
theorem trim_ne_nil_iff {text : Text} : trim text ≠ [] ↔ text.HasVisible := by
  rw [trim, ne_eq, trimEnd_eq_nil_iff, hasVisible_trimStart_iff, not_not]

theorem mem_of_mem_trim {text : Text} {c : Char} (mem : c ∈ trim text) : c ∈ text := by
  have inner := (trimEnd_isPrefix (trimStart text)).subset mem
  exact (List.dropWhile_suffix isBlank).subset inner

end PatchSurvey.Text
