import Mathlib.Data.Bool.AllAny
import PatchSurvey.Proofs.Text.Visible
import PatchSurvey.Text.Word

/-! # The tokens of a text

A token is a row of word characters that is as long as possible, or one character
that is neither a word character nor blank. Blanks only separate tokens, so that a
text can be taken apart at its first token. -/

namespace PatchSurvey.Text

/-- The tokens in order. -/
def tokens : Text → List Text
  | [] => []
  | c :: text =>
      if isBlank c then tokens text
      else if isWord c && text.head?.any isWord then
        match tokens text with
        | word :: rest => (c :: word) :: rest
        | [] => [[c]]
      else [c] :: tokens text

theorem not_isBlank_of_isWord {c : Char} (word : isWord c = true) : isBlank c = false := by
  have apart : ∀ d ∈ blankCharacters, isWord d = false :=
    List.all_iff_forall_prop.1 (by decide +kernel)
  by_contra blank
  have among := mem_blankCharacters_of_isBlank (Bool.of_not_eq_false blank)
  rw [apart c among] at word
  cases word

theorem not_isWord_of_isBlank {c : Char} (blank : isBlank c = true) : isWord c = false := by
  refine Bool.eq_false_iff.2 fun word => ?_
  rw [not_isBlank_of_isWord word] at blank
  cases blank

/-- Blanks before a text add no token. -/
theorem tokens_blanks_append {blanks : Text} (blank : ∀ c ∈ blanks, isBlank c = true)
    (text : Text) : tokens (blanks ++ text) = tokens text := by
  induction blanks with
  | nil => rfl
  | cons c blanks ih =>
      obtain ⟨first, others⟩ := List.forall_mem_cons.1 blank
      rw [List.cons_append, tokens, if_pos first, ih others]

theorem tokens_sign_cons {c : Char} (seen : isBlank c = false) (other : isWord c = false)
    (text : Text) : tokens (c :: text) = [c] :: tokens text := by
  rw [tokens, if_neg (Bool.eq_false_iff.1 seen), other, Bool.false_and, if_neg Bool.false_ne_true]

/-- One or more word characters. -/
def IsWordRow (word : Text) : Prop :=
  word ≠ [] ∧ ∀ c ∈ word, isWord c = true

instance (word : Text) : Decidable (IsWordRow word) :=
  decidable_of_iff (word ≠ [] ∧ word.all isWord = true) (and_congr_right' List.all_eq_true)

/-- A whole word is a token. -/
theorem tokens_word_append {word : Text} (row : IsWordRow word) {text : Text}
    (stop : text.head?.any isWord = false) : tokens (word ++ text) = word :: tokens text := by
  obtain ⟨some, plain⟩ := row
  induction word with
  | nil => exact absurd rfl some
  | cons c word ih =>
      obtain ⟨first, others⟩ := List.forall_mem_cons.1 plain
      rw [List.cons_append, tokens, if_neg (Bool.eq_false_iff.1 (not_isBlank_of_isWord first)),
        first, Bool.true_and]
      cases word with
      | nil =>
          rw [List.nil_append, stop, if_neg Bool.false_ne_true]
      | cons d word =>
          have next : ((d :: word) ++ text).head?.any isWord = true := others d (List.mem_cons_self ..)
          rw [next, if_pos rfl, ih (List.cons_ne_nil d word) others]

/-- Before a word character a token of word characters begins. -/
theorem exists_tokens_cons_of_isWord {c : Char} (word : isWord c = true) (text : Text) :
    ∃ tail rest, tokens (c :: text) = (c :: tail) :: rest := by
  rw [tokens, if_neg (Bool.eq_false_iff.1 (not_isBlank_of_isWord word))]
  split
  · split
    · exact ⟨_, _, rfl⟩
    · exact ⟨_, _, rfl⟩
  · exact ⟨_, _, rfl⟩

/-- Where the first token is no word, no word character stands ahead. -/
theorem not_isWord_head_of_tokens {text token : Text} {rest : List Text}
    (first : tokens text = token :: rest) (other : token.head?.any isWord = false) :
    text.head?.any isWord = false := by
  cases text with
  | nil => rfl
  | cons c text =>
      by_contra word
      obtain ⟨tail, more, begun⟩ := exists_tokens_cons_of_isWord (Bool.of_not_eq_false word) text
      rw [begun] at first
      obtain rfl := (List.cons.inj first).1
      exact word other

/-- Behind blanks no word goes on. -/
theorem isWord_head?_blanks_append {blanks : Text} (blank : ∀ c ∈ blanks, isBlank c = true)
    {text : Text} (stop : text.head?.any isWord = false) :
    (blanks ++ text).head?.any isWord = false := by
  cases blanks with
  | nil => exact stop
  | cons c blanks => exact not_isWord_of_isBlank (blank c (List.mem_cons_self ..))

/-- A text begins with its first token behind blanks. A token that is a word ends where it does. -/
theorem exists_append_of_tokens {text token : Text} {rest : List Text}
    (first : tokens text = token :: rest) :
    ∃ blanks behind, (∀ c ∈ blanks, isBlank c = true) ∧ text = blanks ++ (token ++ behind) ∧
      tokens behind = rest ∧
      (token.head?.any isWord = true → behind.head?.any isWord = false) := by
  induction text generalizing token rest with
  | nil => cases first
  | cons c text ih =>
      rw [tokens] at first
      split at first
      · rename_i blank
        obtain ⟨blanks, behind, others, whole, more⟩ := ih first
        exact ⟨c :: blanks, behind, List.forall_mem_cons.2 ⟨blank, others⟩,
          congrArg (c :: ·) whole, more⟩
      · split at first
        · rename_i goesOn
          obtain ⟨d, text, rfl⟩ : ∃ d more, text = d :: more := by
            cases text with
            | nil => cases (Bool.and_eq_true_iff.1 goesOn).2
            | cons d more => exact ⟨d, more, rfl⟩
          have word : isWord d = true := (Bool.and_eq_true_iff.1 goesOn).2
          obtain ⟨tail, others, begun⟩ := exists_tokens_cons_of_isWord word text
          rw [begun] at first
          obtain ⟨rfl, rfl⟩ := List.cons.inj first
          obtain ⟨blanks, behind, blank, whole, more, stop⟩ := ih begun
          -- the word goes on at once, so there are no blanks before the rest of it
          cases blanks with
          | nil =>
              exact ⟨[], behind, List.forall_mem_nil _, congrArg (c :: ·) whole, more,
                fun _ => stop word⟩
          | cons e blanks =>
              obtain ⟨rfl, -⟩ := List.cons.inj whole
              have seen := not_isBlank_of_isWord word
              rw [blank d (List.mem_cons_self ..)] at seen
              cases seen
        · rename_i ends
          obtain ⟨rfl, rfl⟩ := List.cons.inj first
          refine ⟨[], text, List.forall_mem_nil _, rfl, rfl, fun word => ?_⟩
          change isWord c = true at word
          rwa [word, Bool.true_and, Bool.not_eq_true] at ends

end PatchSurvey.Text
