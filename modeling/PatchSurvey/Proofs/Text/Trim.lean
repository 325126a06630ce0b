import PatchSurvey.Text.Basic

/-! # Blanks around a text

Trimming takes nothing from a text without blanks at its ends. Behind a visible
character, the end of a text is trimmed as if it stood alone. -/

namespace PatchSurvey.Text

/-- No blank stands at either end. -/
structure Visible (text : Text) : Prop where
  first : text.head?.any isBlank = false
  last : text.getLast?.any isBlank = false

instance (text : Text) : Decidable (Visible text) :=
  decidable_of_iff (text.head?.any isBlank = false ∧ text.getLast?.any isBlank = false)
    ⟨fun ⟨h₁, h₂⟩ => ⟨h₁, h₂⟩, fun ⟨h₁, h₂⟩ => ⟨h₁, h₂⟩⟩

theorem trimStart_of_head? {text : Text} (first : text.head?.any isBlank = false) :
    trimStart text = text := by
  cases text with
  | nil => rfl
  | cons c text => rw [trimStart, List.dropWhile_cons_of_neg (by simpa using first)]

theorem trimEnd_of_getLast? {text : Text} (last : text.getLast?.any isBlank = false) :
    trimEnd text = text := by
  rw [← List.head?_reverse] at last
  rw [trimEnd, ← trimStart, trimStart_of_head? last, List.reverse_reverse]

theorem Visible.trim {text : Text} (visible : Visible text) : Text.trim text = text := by
  rw [Text.trim, trimStart_of_head? visible.first, trimEnd_of_getLast? visible.last]

/-- What stands before a visible character is kept, and what follows is trimmed. -/
theorem trimEnd_append {text : Text} (last : text.getLast?.any isBlank = false)
    (rest : Text) : trimEnd (text ++ rest) = text ++ trimEnd rest := by
  rw [← List.head?_reverse] at last
  rw [trimEnd, List.reverse_append, List.dropWhile_append]
  split
  · rename_i blank
    rw [List.isEmpty_iff] at blank
    rw [← trimStart, trimStart_of_head? last, trimEnd, blank]
    simp
  · rw [List.reverse_append, List.reverse_reverse, trimEnd]

/-- Trimming the end leaves the start of a text. -/
theorem trimEnd_isPrefix (text : Text) : trimEnd text <+: text := by
  have suffix := List.dropWhile_suffix isBlank (l := text.reverse)
  rw [trimEnd, ← List.reverse_suffix, List.reverse_reverse]
  exact suffix

/-! ## Trimmed texts -/

theorem head?_trimStart (text : Text) : (trimStart text).head?.any isBlank = false := by
  have first := List.head?_dropWhile_not isBlank text
  rw [trimStart]
  cases next : (text.dropWhile isBlank).head? with
  | none => rfl
  | some c =>
      rw [next] at first
      exact first

theorem getLast?_trimEnd (text : Text) : (trimEnd text).getLast?.any isBlank = false := by
  rw [trimEnd, List.getLast?_reverse]
  exact head?_trimStart text.reverse

theorem head?_trimEnd {text : Text} (first : text.head?.any isBlank = false) :
    (trimEnd text).head?.any isBlank = false := by
  cases text with
  | nil => rfl
  | cons c text =>
      have last : [c].getLast?.any isBlank = false := first
      have kept : trimEnd ([c] ++ text) = [c] ++ trimEnd text := trimEnd_append last text
      rw [← List.singleton_append, kept]
      exact first

theorem visible_trim (text : Text) : Visible (trim text) :=
  ⟨head?_trimEnd (head?_trimStart text), getLast?_trimEnd (trimStart text)⟩

@[simp] theorem trim_trim (text : Text) : trim (trim text) = trim text :=
  (visible_trim text).trim

end PatchSurvey.Text
