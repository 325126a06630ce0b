import PatchSurvey.Pattern.Search
import PatchSurvey.Proofs.Pattern.Stretch
import PatchSurvey.Proofs.Text.Tokens

/-! # Patterns and tokens

What a pattern says of the tokens ahead. Blanks leave them as they are, a keyword
takes one of them, and modifiers take only words on which the header does not
depend. -/

namespace PatchSurvey.Pattern

open Place Text

variable {a b : Place}

/-! ## Patterns at the start of a text -/

/-- The pattern covers only stretches at the start of a text. -/
def Anchored (pattern : Pattern) : Prop :=
  ∀ ⦃a b : Place⦄, Spans pattern a b → a.last = none

theorem Anchored.row_cons {first : Pattern} (anchored : Anchored first) (rest : List Pattern) :
    Anchored (row (first :: rest)) := by
  intro a b spans
  obtain ⟨m, head, -⟩ := spans_row_cons.1 spans
  exact anchored head

theorem anchored_indent : Anchored indent := by
  have start : Anchored textStart := fun _ _ spans => spans.1
  exact start.row_cons [blanks]

/-- Behind a character something was read. -/
theorem last_ne_none_of_mem_places {c : Char} {text : Text} {place : Place}
    (here : place ∈ places (some c) text) : place.last ≠ none := by
  induction text generalizing c with
  | nil =>
      obtain rfl := List.mem_singleton.1 here
      exact Option.some_ne_none c
  | cons d text ih =>
      rcases List.mem_cons.1 here with rfl | here
      · exact Option.some_ne_none c
      · exact ih here

/-- Only where nothing was read is the whole text ahead. -/
theorem eq_of_mem_places {text : Text} {place : Place} (here : place ∈ places none text)
    (start : place.last = none) : place = ⟨none, text⟩ := by
  cases text with
  | nil => exact List.mem_singleton.1 here
  | cons c text =>
      rcases List.mem_cons.1 here with rfl | here
      · rfl
      · exact absurd start (last_ne_none_of_mem_places here)

/-- A pattern at the start is only looked for there. -/
theorem Anchored.exists_of_search {pattern : Pattern} (anchored : Anchored pattern) {text : Text}
    (found : pattern.search text = true) : ∃ b, Spans pattern ⟨none, text⟩ b := by
  obtain ⟨a, here, b, spans⟩ := search_iff.1 found
  obtain rfl := eq_of_mem_places here (anchored spans)
  exact ⟨b, spans⟩

/-! ## What does not matter -/

/-- Something that is read off the text ahead is the same before and behind the pattern. -/
def Keeps {α : Type} (view : Text → α) (pattern : Pattern) : Prop :=
  ∀ ⦃a b : Place⦄, Spans pattern a b → view a.rest = view b.rest

namespace Keeps

variable {α : Type} {view : Text → α} {first second body : Pattern}

theorem textStart : Keeps view textStart := by
  rintro a _ ⟨-, rfl⟩
  rfl

theorem either (keepsFirst : Keeps view first) (keepsSecond : Keeps view second) :
    Keeps view (either first second) :=
  fun _ _ spans => spans.elim (@keepsFirst _ _) (@keepsSecond _ _)

theorem optional (keeps : Keeps view body) : Keeps view (optional body) := by
  rintro a b (once | rfl)
  · exact keeps once
  · rfl

theorem many (keeps : Keeps view body) : Keeps view (many body) := by
  intro a b spans
  rw [Spans] at spans
  induction spans with
  | stop => rfl
  | more head _ ih => exact (keeps head).trans ih

theorem row {pieces : List Pattern} (keeps : ∀ piece ∈ pieces, Keeps view piece) :
    Keeps view (row pieces) := by
  induction pieces with
  | nil =>
      intro a b spans
      rw [spans_row_nil.1 spans]
  | cons first rest ih =>
      obtain ⟨head, tail⟩ := List.forall_mem_cons.1 keeps
      intro a b spans
      obtain ⟨m, before, after⟩ := spans_row_cons.1 spans
      exact (head before).trans (ih tail after)

end Keeps

/-! ## Pieces and tokens -/

theorem keeps_tokens_blanks : Keeps tokens blanks := by
  intro a b spans
  obtain ⟨stretch, blank, reads⟩ := spans_many_one_iff.1 spans
  rw [reads.ahead, tokens_blanks_append blank]

theorem keeps_tokens_indent : Keeps tokens indent := by
  refine Keeps.row ?_
  exact List.forall_mem_cons.2 ⟨.textStart, List.forall_mem_singleton.2 keeps_tokens_blanks⟩

/-- Blanks that must be there end a word. -/
theorem tokens_of_spans_gap (spans : Spans gap a b) :
    tokens a.rest = tokens b.rest ∧ a.beforeWord = false := by
  obtain ⟨stretch, some, blank, reads⟩ := spans_oneOrMore_one_iff.1 spans
  obtain ⟨c, stretch, rfl⟩ := List.exists_cons_of_ne_nil some
  constructor
  · rw [reads.ahead, tokens_blanks_append blank]
  · rw [beforeWord, reads.ahead]
    exact not_isWord_of_isBlank (blank c (List.mem_cons_self ..))

/-- A word that ends here is a token. -/
theorem tokens_of_reads_word {word : Text} (row : IsWordRow word) (reads : Reads word a b)
    (stop : b.beforeWord = false) : tokens a.rest = word :: tokens b.rest := by
  rw [reads.ahead]
  exact tokens_word_append row stop

/-- A word before an edge ends there. -/
theorem tokens_of_reads_word_edge {m : Place} {word : Text} (row : IsWordRow word)
    (reads : Reads word a m) (edge : Spans wordEdge m b) :
    b = m ∧ tokens a.rest = word :: tokens m.rest := by
  obtain ⟨differ, rfl⟩ := edge
  have after : b.afterWord = true := by
    rw [afterWord, reads.last, List.getLast?_eq_some_getLast row.1, Option.some_or]
    exact row.2 _ (List.getLast_mem row.1)
  rw [after, ne_eq, eq_comm, Bool.not_eq_true] at differ
  exact ⟨rfl, tokens_of_reads_word row reads differ⟩

theorem tokens_of_reads_sign {c : Char} (seen : isBlank c = false) (other : isWord c = false)
    (reads : Reads [c] a b) : tokens a.rest = [c] :: tokens b.rest := by
  rw [reads.ahead]
  exact tokens_sign_cons seen other b.rest

/-- One of several keywords is the next token. -/
theorem exists_tokens_of_spans_oneKeyword {list : List String}
    (rows : ∀ word ∈ list, IsWordRow word.toList) (spans : Spans (oneKeyword list) a b) :
    ∃ word ∈ list, tokens a.rest = word.toList :: tokens b.rest := by
  simp only [oneKeyword, spans_row_cons, spans_row_nil, spans_words_iff] at spans
  obtain ⟨m, ⟨word, mem, reads⟩, k, gap, rfl⟩ := spans
  obtain ⟨same, stop⟩ := tokens_of_spans_gap gap
  exact ⟨word, mem, by rw [tokens_of_reads_word (rows word mem) reads stop, same]⟩

/-- A name begins with a word character, and so does its token. -/
theorem exists_tokens_of_spans_name (spans : Spans name a b) :
    ∃ token rest, tokens a.rest = token :: rest ∧ token.head?.any isWord = true := by
  obtain ⟨word, some, plain, reads⟩ := spans_oneOrMore_one_iff.1 spans
  obtain ⟨c, word, rfl⟩ := List.exists_cons_of_ne_nil some
  have first : isWord c = true := plain c (List.mem_cons_self ..)
  obtain ⟨tail, rest, begun⟩ := exists_tokens_cons_of_isWord first (word ++ b.rest)
  exact ⟨c :: tail, rest, by rw [reads.ahead, List.cons_append, begun], first⟩

/-- A name that ends here is a token. -/
theorem exists_word_of_spans_name (spans : Spans name a b) (stop : b.beforeWord = false) :
    ∃ word, IsWordRow word ∧ tokens a.rest = word :: tokens b.rest := by
  obtain ⟨word, some, plain, reads⟩ := spans_oneOrMore_one_iff.1 spans
  exact ⟨word, ⟨some, plain⟩, tokens_of_reads_word ⟨some, plain⟩ reads stop⟩

/-! ## Behind the modifiers -/

/-- The tokens behind leading modifiers. -/
def stem (modifiers : List String) (text : Text) : List Text :=
  (tokens text).dropWhile (modifiers.map String.toList).contains

section

variable {modifiers : List String}

theorem keeps_stem_of_keeps_tokens {pattern : Pattern} (keeps : Keeps tokens pattern) :
    Keeps (stem modifiers) pattern := by
  intro a b spans
  rw [stem, stem, keeps spans]

theorem keeps_stem_indent : Keeps (stem modifiers) indent :=
  keeps_stem_of_keeps_tokens keeps_tokens_indent

variable (rows : ∀ word ∈ modifiers, IsWordRow word.toList)
include rows

/-- Modifiers are passed over. -/
theorem keeps_stem_oneKeyword {list : List String} (among : list ⊆ modifiers) :
    Keeps (stem modifiers) (oneKeyword list) := by
  intro a b spans
  obtain ⟨word, mem, next⟩ :=
    exists_tokens_of_spans_oneKeyword (fun word mem => rows word (among mem)) spans
  have passed : word.toList ∈ modifiers.map String.toList := List.mem_map_of_mem (among mem)
  rw [stem, next, List.dropWhile_cons, if_pos (List.contains_iff_mem.2 passed), stem]

theorem keeps_stem_keyword {word : String} (mem : word ∈ modifiers) :
    Keeps (stem modifiers) (keyword word) :=
  keeps_stem_oneKeyword rows (List.cons_subset.2 ⟨mem, List.nil_subset modifiers⟩)

theorem keeps_stem_modifier {word : String} (mem : word ∈ modifiers) :
    Keeps (stem modifiers) (modifier word) :=
  (keeps_stem_keyword rows mem).optional

end

/-- Behind modifiers comes a token that is none. -/
theorem stem_of_tokens {modifiers : List String} {text token : Text} {rest : List Text}
    (next : tokens text = token :: rest) (other : token ∉ modifiers.map String.toList) :
    stem modifiers text = token :: rest := by
  rw [stem, next, List.dropWhile_cons, if_neg (mt List.contains_iff_mem.1 other)]

end PatchSurvey.Pattern
