import PatchSurvey.Proofs.Pattern.Ends

/-! # Ends of a joined text

An end of two texts with a character between them holds the second one and the character, or is
an end of the second. What a row begins with, or that it asks for the end of the text, tells
which ends of the text it can begin. -/

namespace PatchSurvey.Pattern

open Place Text

/-- An end of a joined text has all of the second part behind the character, or is within it. -/
theorem suffix_append_cons_iff {first second rest : Text} {c : Char} :
    rest <:+ first ++ c :: second ↔
      (∃ front, front <:+ first ∧ rest = front ++ c :: second) ∨ rest <:+ second := by
  induction first with
  | nil => simp [List.suffix_cons_iff]
  | cons d first ih =>
      simp only [List.cons_append, List.suffix_cons_iff, ih, or_and_right, exists_or,
        exists_eq_left, or_assoc]

/-- A row at the start or behind a mark is found where it begins the text or what is behind a mark. -/
theorem search_part_iff_begins {pieces : List Pattern} (ahead : pieces.any looksBack = false)
    {mark : String} {c : Char} (single : mark.toList = [c]) {text : Text} :
    (row (either textStart (exactly mark) :: pieces)).search text = true ↔
      begins pieces text = true ∨ ∃ rest, c :: rest <:+ text ∧ begins pieces rest = true := by
  rw [search_iff]
  constructor
  · rintro ⟨a, here, b, spans⟩
    obtain ⟨m, ⟨start, rfl⟩ | read, tail⟩ := spans_row_cons.1 spans
    · obtain rfl := eq_of_mem_places here start
      exact .inl ((begins_iff ahead (a := ⟨none, text⟩)).2 ⟨b, tail⟩)
    · have behind : a.rest = c :: m.rest := by
        rw [(spans_exactly_iff.1 read).ahead, single, List.singleton_append]
      have ends := rest_isSuffix_of_mem_places here
      rw [behind] at ends
      exact .inr ⟨m.rest, ends, (begins_iff ahead).2 ⟨b, tail⟩⟩
  · rintro (begun | ⟨rest, ends, begun⟩)
    · obtain ⟨b, spans⟩ := (begins_iff ahead (a := ⟨none, text⟩)).1 begun
      exact ⟨_, mem_places_start none text, b, spans_row_cons.2 ⟨_, .inl ⟨rfl, rfl⟩, spans⟩⟩
    · obtain ⟨front, rfl⟩ := ends
      obtain ⟨a, here, behind⟩ := exists_mem_places_append none front (c :: rest)
      obtain ⟨b, spans⟩ := (begins_iff ahead (a := ⟨some c, rest⟩)).1 begun
      have read : Spans (exactly mark) a ⟨some c, rest⟩ := by
        refine spans_exactly_iff.2 ⟨?_, ?_⟩
        · rw [behind, single, List.singleton_append]
        · rw [single]; rfl
      exact ⟨a, here, b, spans_row_cons.2 ⟨_, .inr read, spans⟩⟩

theorem looksBack_literal (word : Text) : (literal word).looksBack = false := by
  induction word with
  | nil => rfl
  | cons c word ih =>
      cases word with
      | nil => rfl
      | cons d word => exact ih

/-- A word begins the texts that it is a prefix of. -/
theorem begins_exactly_iff {word : String} {text : Text} :
    begins [exactly word] text = true ↔ word.toList <+: text := by
  have ahead : [exactly word].any looksBack = false := by
    rw [List.any_cons, List.any_nil, Bool.or_false]
    exact looksBack_literal word.toList
  rw [@begins_iff [exactly word] ahead ⟨none, text⟩]
  constructor
  · rintro ⟨b, spans⟩
    exact ⟨b.rest, (spans_exactly_iff.1 spans).ahead.symm⟩
  · rintro ⟨behind, rfl⟩
    exact ⟨⟨_, behind⟩, spans_exactly_iff.2 ⟨rfl, rfl⟩⟩

/-- A row that asks for the end of the text does not begin before a character that it avoids, unless
that is a line feed. -/
theorem not_begins_textEnd {pieces : List Pattern} (ahead : pieces.any looksBack = false) {c : Char}
    (avoids : (row pieces).avoids c = true) (feed : c ≠ '\n') (front behind : Text) :
    begins (pieces ++ [textEnd]) (front ++ c :: behind) = false := by
  have aheadEnd : (pieces ++ [textEnd]).any looksBack = false := by
    rw [List.any_append, ahead]
    rfl
  refine Bool.eq_false_iff.2 fun begun => ?_
  obtain ⟨b, spans⟩ := (begins_iff aheadEnd (a := ⟨none, front ++ c :: behind⟩)).1 begun
  obtain ⟨m, spans, ends, -⟩ := spans_row_append.1 spans
  obtain ⟨stretch, free, reads⟩ := spans.exists_reads_of_avoids avoids
  have mem : c ∈ stretch ++ m.rest := by
    rw [← reads.ahead]
    exact List.mem_append_right front (List.mem_cons_self ..)
  rcases List.mem_append.1 mem with mem | mem
  · exact free mem
  · rcases ends with ends | ends
    · rw [ends] at mem
      cases mem
    · rw [ends] at mem
      exact feed (List.mem_singleton.1 mem)

end PatchSurvey.Pattern
