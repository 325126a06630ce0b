import PatchSurvey.Proofs.Pattern.Trailing
import PatchSurvey.Proofs.Signal.JavaHeaders

/-! # Exceptions of Java methods

Blanks count as exceptions behind `throws`, so that two blanks at the end of a line are a list
of them. Such a header of a method is found no more when the line is trimmed. All other headers
are. -/

namespace PatchSurvey.JavaHead

open Pattern Place Text

/-- A character of a list of exceptions. -/
def isException (c : Char) : Bool :=
  isWord c || c == '.' || c == ',' || isBlank c

/-- What stands behind `throws`. -/
def exceptions : List Pattern :=
  [gap, oneOrMore (one isException)]

/-- What ends a method behind its exceptions. -/
def methodTail : List Pattern :=
  [mark "\x7b", blanks, textEnd]

/-- A method up to its parameters. -/
def methodFront : List Pattern :=
  methodPieces ++ [enclosed "(" ";" ")", blanks]

theorem method_eq :
    method = row (methodFront ++ optional (row (exactly "throws" :: exceptions)) :: methodTail) :=
  rfl

/-- A method that ends in `throws`. -/
def bareThrows : Pattern :=
  row (methodFront ++ [exactly "throws", textEnd])

theorem anchored_methodFront (rest : List Pattern) : Anchored (row (methodFront ++ rest)) :=
  anchored_indent.row_cons _

variable {a b c : Place} {text : Text}

/-! ## Lists of exceptions -/

/-- A blank and at least one more character. -/
theorem spans_exceptions_iff :
    Spans (row exceptions) a b ↔
      ∃ m, Spans blank a m ∧ Spans (oneOrMore (one isException)) m b := by
  constructor
  · rintro ⟨n, ⟨m, first, more⟩, list⟩
    obtain ⟨between, blank, readsBetween⟩ := spans_many_one_iff.1 more
    obtain ⟨stretch, some, accepted, readsStretch⟩ := spans_oneOrMore_one_iff.1 list
    have exception : ∀ c ∈ between, isException c = true := by
      intro c mem
      rw [isException, blank c mem, Bool.or_true]
    refine ⟨m, first, spans_oneOrMore_one_iff.2 ⟨between ++ stretch, ?_, ?_,
      reads_append_iff.2 ⟨n, readsBetween, readsStretch⟩⟩⟩
    · exact List.append_ne_nil_of_right_ne_nil between some
    · exact List.forall_mem_append.2 ⟨exception, accepted⟩
  · rintro ⟨m, first, list⟩
    exact ⟨m, ⟨m, first, .stop m⟩, list⟩

/-- A text that ends visibly keeps its list of exceptions without blanks at the end. -/
theorem exists_spans_exceptions {blanks : Text} (blank : ∀ c ∈ blanks, isBlank c = true)
    (trails : Trails blanks b a) (spans : Spans (row (exceptions ++ methodTail)) b c)
    (some : a.rest ≠ []) (ends : a.rest.getLast?.any isBlank = false) :
    ∃ d, Spans (row (exceptions ++ methodTail)) a d := by
  obtain ⟨m, list, tail⟩ := spans_row_append.1 spans
  obtain ⟨n, first, p, second, more⟩ := spans_exceptions_iff.1 list
  obtain ⟨q, first, trails⟩ := first.retreat_one blank trails some
  have someBehind : q.rest ≠ [] := by
    intro none
    obtain ⟨x, seen, reads⟩ := spans_one_iff.1 first
    rw [reads.ahead, none] at ends
    exact absurd seen (Bool.eq_false_iff.1 ends)
  obtain ⟨r, second, trails⟩ := second.retreat_one blank trails someBehind
  have behind : Spans (row (many (one isException) :: methodTail)) p c :=
    spans_row_cons.2 ⟨m, more, tail⟩
  obtain ⟨d, behind, -⟩ := behind.retreat blank trails (by decide)
  obtain ⟨t, more, tail⟩ := spans_row_cons.1 behind
  exact ⟨d, spans_row_append.2 ⟨t, spans_exceptions_iff.2 ⟨q, first, r, second, more⟩, tail⟩⟩

/-! ## Methods without the blanks at the end -/

theorem retreats_methodFront : (row methodFront).retreats = true := by
  decide +kernel

/-- A method is found without the blanks at the end, unless the line then ends in `throws`. -/
theorem search_method_or_bareThrows {blanks : Text} (blank : ∀ c ∈ blanks, isBlank c = true)
    (ends : text.getLast?.any isBlank = false) (found : method.search (text ++ blanks) = true) :
    method.search text = true ∨ bareThrows.search text = true := by
  rw [method_eq] at found ⊢
  obtain ⟨c, spans⟩ := (anchored_methodFront _).exists_of_search found
  obtain ⟨m, before, spans⟩ := spans_row_append.1 spans
  obtain ⟨n, thrown, behind⟩ := spans_row_cons.1 spans
  have start := mem_places_start none text
  obtain ⟨p, front, trails⟩ := before.retreat blank (.within ⟨none, text⟩) retreats_methodFront
  rcases thrown with thrown | rfl
  · obtain ⟨q, read, list⟩ := spans_row_cons.1 thrown
    obtain ⟨r, word, trails⟩ := read.retreat blank trails (by decide)
    by_cases none : r.rest = []
    · exact .inr (search_iff.2 ⟨_, start, r, spans_row_append.2
        ⟨p, front, spans_row_cons.2 ⟨r, word, .inl none, rfl⟩⟩⟩)
    · have endsBehind : r.rest.getLast?.any isBlank = false := by
        obtain ⟨first, whole, -⟩ := front.exists_stretch
        obtain ⟨second, next, -⟩ := word.exists_stretch
        change text = first ++ p.rest at whole
        rw [whole, next, ← List.append_assoc, List.getLast?_append_of_ne_nil _ none] at ends
        exact ends
      obtain ⟨d, spans⟩ :=
        exists_spans_exceptions blank trails (spans_row_append.2 ⟨n, list, behind⟩) none endsBehind
      obtain ⟨t, list, tail⟩ := spans_row_append.1 spans
      exact .inl (search_iff.2 ⟨_, start, d, spans_row_append.2 ⟨p, front, spans_row_cons.2
        ⟨t, .inl (spans_row_cons.2 ⟨r, word, list⟩), tail⟩⟩⟩)
  · obtain ⟨d, tail, -⟩ := behind.retreat blank trails (by decide)
    exact .inl (search_iff.2 ⟨_, start, d, spans_row_append.2
      ⟨p, front, spans_row_cons.2 ⟨p, .inr rfl, tail⟩⟩⟩)

theorem retreats_declaration : declaration.retreats = true := by
  decide +kernel

/-- A declaration is found with blanks at the end. -/
theorem search_declaration_append {blanks : Text} (blank : ∀ c ∈ blanks, isBlank c = true)
    (found : declaration.search text = true) : declaration.search (text ++ blanks) = true := by
  obtain ⟨rest, head, free⟩ := search_declaration_iff.1 found
  have settled : (row (declarationPieces ++ [exactly "("])).settled = true :=
    settled_of_mem _ (List.mem_cons_self ..)
  have stop := isWord_head?_of_suffix blank List.suffix_rfl
  refine search_declaration_iff.2 ⟨rest ++ blanks, (leaves_append_iff settled stop).2 head, ?_⟩
  refine List.not_mem_append free fun mem => ?_
  exact absurd (blank ';' mem) (by decide)

/-! ## Methods that end in `throws` -/

/-- The closing bracket of the parameters, with the pieces behind it. -/
theorem exists_closing {rest : List Pattern}
    (spans : Spans (row (methodPieces ++ enclosed "(" ";" ")" :: rest)) ⟨none, text⟩ b) :
    ∃ front m, text = front ++ ')' :: m.rest ∧ Spans (row rest) m b := by
  obtain ⟨n, before, spans⟩ := spans_row_append.1 spans
  obtain ⟨m, parameters, behind⟩ := spans_row_cons.1 spans
  obtain ⟨p, opened, closing⟩ :=
    (@spans_row_append _ _ [exactly "(", many (except ";")] [exactly ")"]).1 parameters
  obtain ⟨first, whole, -⟩ := before.exists_stretch
  obtain ⟨second, inner, -⟩ := opened.exists_stretch
  have bracket : p.rest = ')' :: m.rest := (spans_exactly_iff.1 closing).ahead
  refine ⟨first ++ second, m, ?_, behind⟩
  rw [List.append_assoc, ← bracket, ← inner]
  exact whole

theorem trimStart_of_spans_throws (spans : Spans (exactly "throws") a b) :
    trimStart a.rest = "throws".toList ++ b.rest :=
  trimStart_of_spans_exactly rfl (by decide) spans

/-- Before the end of a line at most one blank is left, which is no list of exceptions. -/
theorem not_spans_exceptions_of_textEnd (ends : Spans textEnd a b) :
    ¬ Spans (row exceptions) a c := by
  intro list
  obtain ⟨m, ⟨x, rest, first, -, rfl⟩, n, ⟨y, more, second, -, -⟩, -⟩ :=
    spans_exceptions_iff.1 list
  change rest = y :: more at second
  rcases ends.1 with none | feed
  · rw [none] at first
    cases first
  · rw [feed] at first
    rw [← (List.cons.inj first).2] at second
    cases second

/-- Where only `throws` is left of a line, no method ends. -/
theorem not_spans_methodTail_of_throws
    (bare : Spans (row [blanks, exactly "throws", textEnd]) a b) :
    ¬ Spans (row (blanks :: optional (row (exactly "throws" :: exceptions)) :: methodTail)) a c := by
  intro spans
  obtain ⟨m, between, bare⟩ := spans_row_cons.1 bare
  obtain ⟨n, read, ends⟩ := spans_row_cons.1 bare
  obtain ⟨p, betweenOther, spans⟩ := spans_row_cons.1 spans
  obtain ⟨q, thrown, tail⟩ := spans_row_cons.1 spans
  have next : trimStart p.rest = "throws".toList ++ n.rest := by
    rw [← trimStart_of_spans_blanks betweenOther, trimStart_of_spans_blanks between,
      trimStart_of_spans_throws read]
  rcases thrown with thrown | rfl
  · obtain ⟨r, readOther, list⟩ := spans_row_cons.1 thrown
    rw [trimStart_of_spans_throws readOther] at next
    have same : n.rest = r.rest := (List.append_cancel_left next).symm
    have endsThere : Spans textEnd r r := ⟨same ▸ ends.1, rfl⟩
    exact not_spans_exceptions_of_textEnd endsThere list
  · have toEnd : Spans (row ([mark "\x7b", blanks] ++ [textEnd])) q c := tail
    have free : 't' ∉ q.rest := not_mem_of_spans_toEnd (by decide) (by decide) toEnd
    have inRest : 't' ∈ trimStart q.rest := by
      rw [next]
      exact List.mem_append_left _ (by decide)
    exact free ((List.dropWhile_suffix isBlank).subset inRest)

/-- A line that ends in `throws` has no method, as blanks are no exceptions at its end. -/
theorem not_search_method_of_bareThrows (bare : bareThrows.search text = true) :
    method.search text = false := by
  refine Bool.eq_false_iff.2 fun found => ?_
  obtain ⟨b, spansBare⟩ := (anchored_methodFront _).exists_of_search bare
  obtain ⟨c, spans⟩ := (anchored_methodFront _).exists_of_search found
  obtain ⟨front, m, whole, endBare⟩ := exists_closing spansBare
  obtain ⟨other, n, wholeOther, ending⟩ := exists_closing spans
  -- both brackets are the last one of the line
  have toEndBare : Spans (row ([blanks, exactly "throws"] ++ [textEnd])) m b := endBare
  have freeBare : ')' ∉ m.rest := not_mem_of_spans_toEnd (by decide) (by decide) toEndBare
  have toEnd : Spans (row ([blanks, optional (row (exactly "throws" :: exceptions)), mark "\x7b",
      blanks] ++ [textEnd])) n c := ending
  have free : ')' ∉ n.rest := not_mem_of_spans_toEnd (by decide) (by decide) toEnd
  have same : m.rest = n.rest := rest_inj_of_last (whole.symm.trans wholeOther) freeBare free
  obtain ⟨d, -, endBare⟩ := endBare.of_rest_eq (by decide) same.symm
  exact not_spans_methodTail_of_throws endBare ending

end PatchSurvey.JavaHead
