import PatchSurvey.Proofs.Signal.ScriptHeaders
import PatchSurvey.Proofs.Pattern.Lookahead

/-! # Forms exclude each other

Except in Java, no line has shapes of two forms. The first tokens of a line tell its form,
so that the order in which the shapes are tried does not matter. -/

namespace PatchSurvey

open Pattern Text

namespace HeaderTable

/-- All shapes of the table that a line has are of one form. -/
def Exclusive (table : HeaderTable) : Prop :=
  ∀ ⦃line : Text⦄, ∀ first ∈ table, ∀ second ∈ table, first.2.search line = true →
    second.2.search line = true → first.1 = second.1

variable {table other : HeaderTable} {line : Text}

/-- A form that can be told from the line is the only one. -/
theorem exclusive_of_shown {shown : Text → Form}
    (shows : ∀ header ∈ table, ∀ ⦃line : Text⦄, header.2.search line = true →
      shown line = header.1) : Exclusive table :=
  fun _ first mem second memOther found foundOther =>
    (shows first mem found).symm.trans (shows second memOther foundOther)

theorem exclusive_pair {first second : Form × Pattern}
    (apart : ∀ ⦃line : Text⦄, first.2.search line = true → second.2.search line = false) :
    Exclusive [first, second] := by
  have never {line : Text} (found : first.2.search line = true)
      (foundOther : second.2.search line = true) : False :=
    absurd foundOther (Bool.eq_false_iff.1 (apart found))
  intro line header mem other memOther found foundOther
  simp only [List.mem_cons, List.not_mem_nil, or_false] at mem memOther
  rcases mem with rfl | rfl <;> rcases memOther with rfl | rfl
  · rfl
  · exact (never found foundOther).elim
  · exact (never foundOther found).elim
  · rfl

/-- Where forms exclude each other, any shape in the line decides. -/
theorem Exclusive.find?_of_mem (exclusive : Exclusive table) {header : Form × Pattern}
    (mem : header ∈ table) (found : header.2.search line = true) :
    (table.find? (·.2.search line)).map (·.1) = some header.1 :=
  find?_of_unique (fun other among covers => exclusive header mem other among found covers) mem found

/-- The shapes may be tried in any order. -/
theorem Exclusive.find?_perm (exclusive : Exclusive table) (perm : List.Perm other table) :
    (other.find? (·.2.search line)).map (·.1) = (table.find? (·.2.search line)).map (·.1) := by
  have exclusiveOther : Exclusive other := fun line first mem second memOther =>
    exclusive first (perm.mem_iff.1 mem) second (perm.mem_iff.1 memOther)
  by_cases some : ∃ header ∈ table, header.2.search line = true
  · obtain ⟨header, mem, found⟩ := some
    rw [exclusive.find?_of_mem mem found, exclusiveOther.find?_of_mem (perm.mem_iff.2 mem) found]
  · have missing : ∀ header ∈ table, ¬ header.2.search line = true :=
      fun header mem found => some ⟨header, mem, found⟩
    rw [List.find?_eq_none.2 missing,
      List.find?_eq_none.2 fun header mem => missing header (perm.mem_iff.1 mem)]

/-! ## Bound names and keywords -/

/-- The signs that bind a name. -/
def bindingSigns : List Text :=
  [[':'], ['=']]

theorem not_mem_bindingSigns_of_isWord {token : Text} (word : token.head?.any isWord = true) :
    token ∉ bindingSigns := by
  have signs : ∀ token ∈ bindingSigns, token.head?.any isWord = false := by decide
  intro mem
  rw [signs token mem] at word
  cases word

/-- Behind a bound name there is an equals sign or what may stand before it. -/
theorem opened_binding {piece : Pattern} {rest : List Pattern} (awaits : Awaits bindingSigns piece) :
    Opened bindingSigns (row (blanks :: piece :: exactly "=" :: rest)) :=
  .row_of_awaits awaits_blanks (.row_of_awaits awaits
    ((opened_sign rfl (by decide) (by decide) (by decide)).row_cons rest))

/-- What the second token of a line tells. -/
theorem not_search_binding_of_second {first second : Text} {more : List Text}
    (next : tokens line = first :: second :: more) (free : second ∉ bindingSigns)
    {rest : List Pattern} (opened : Opened bindingSigns (row rest)) :
    (row (indent :: name :: rest)).search line = false := by
  refine Bool.eq_false_iff.2 fun found => ?_
  obtain ⟨word, -, token, mem, others, bound⟩ :=
    opened.exists_tokens_of_search_name (by decide) found
  rw [next] at bound
  obtain rfl : second = token := (List.cons.inj (List.cons.inj bound).2).1
  exact free mem

theorem exists_second_of_search_def
    (found : (row [indent, modifier "async", keyword "def", name, blanks, exactly "("]).search
      line = true) :
    ∃ first second more, tokens line = first :: second :: more ∧ second ∉ bindingSigns := by
  obtain ⟨b, spans⟩ := (anchored_indent.row_cons _).exists_of_search found
  simp only [spans_row_cons] at spans
  obtain ⟨m, indented, n, modified, p, defined, q, named, -⟩ := spans
  obtain ⟨word, mem, first⟩ :=
    @exists_tokens_of_spans_oneKeyword n p ["def"] (by decide) defined
  obtain ⟨token, more, begun, letter⟩ := exists_tokens_of_spans_name named
  rw [keeps_tokens_indent indented]
  rcases modified with modified | rfl
  · obtain ⟨other, -, before⟩ :=
      @exists_tokens_of_spans_oneKeyword m n ["async"] (by decide) modified
    rw [before, first]
    have isRow : ∀ word ∈ ["def"], word.toList ∉ bindingSigns := by decide
    exact ⟨_, _, _, rfl, isRow word mem⟩
  · rw [first, begun]
    exact ⟨_, _, _, rfl, not_mem_bindingSigns_of_isWord letter⟩

theorem exists_second_of_search_func {rest : List Pattern} {receiver : Pattern}
    (found : (row (indent :: keyword "func" :: optional (row (exactly "(" :: receiver :: [])) ::
      name :: rest)).search line = true) :
    ∃ first second more, tokens line = first :: second :: more ∧ second ∉ bindingSigns := by
  obtain ⟨b, spans⟩ := (anchored_indent.row_cons _).exists_of_search found
  simp only [spans_row_cons] at spans
  obtain ⟨m, indented, n, function, p, received, q, named, -⟩ := spans
  obtain ⟨word, -, first⟩ :=
    @exists_tokens_of_spans_oneKeyword m n ["func"] (by decide) function
  rw [keeps_tokens_indent indented, first]
  rcases received with received | rfl
  · obtain ⟨k, bracket, -⟩ := spans_row_cons.1 received
    rw [tokens_of_reads_sign (by decide) (by decide) (spans_exactly_iff.1 bracket)]
    exact ⟨_, _, _, rfl, by decide⟩
  · obtain ⟨token, more, begun, letter⟩ := exists_tokens_of_spans_name named
    rw [begun]
    exact ⟨_, _, _, rfl, not_mem_bindingSigns_of_isWord letter⟩

/-! ## The tables -/

theorem exclusive_ts : Exclusive ts :=
  exclusive_of_shown fun _ mem _ => shownForm_of_mem_ts mem

theorem exclusive_js : Exclusive js :=
  exclusive_of_shown fun _ mem _ => shownForm_of_mem_js mem

theorem exclusive_py : Exclusive py := by
  have colon : Opened bindingSigns (exactly ":") := opened_sign rfl (by decide) (by decide) (by decide)
  refine exclusive_pair fun line found => ?_
  obtain ⟨first, second, more, next, free⟩ := exists_second_of_search_def found
  exact not_search_binding_of_second next free
    (opened_binding (Opened.awaits_optional (colon.row_cons _)))

theorem exclusive_go : Exclusive go := by
  have colon : Opened bindingSigns (exactly ":") := opened_sign rfl (by decide) (by decide) (by decide)
  refine exclusive_pair fun line found => ?_
  obtain ⟨first, second, more, next, free⟩ := exists_second_of_search_func found
  exact not_search_binding_of_second next free
    (opened_binding (Opened.awaits_optional colon))

/-- Words that a function of Rust can begin with. -/
def rustWords : List Text :=
  ["pub", "default", "const", "async", "unsafe", "extern", "fn"].map String.toList

theorem awaits_rustVisibility : Awaits rustWords rustVisibility := by
  have scope : Opened [['(']] (enclosed "(" ")" ")") :=
    opened_enclosed rfl (by decide) (by decide) (by decide)
  refine Opened.awaits_optional (opened_word_row (by decide) (by decide) fun a b spans => ?_)
  simp only [spans_row_cons] at spans
  obtain ⟨m, limited | rfl, n, between, -⟩ := spans
  · exact scope.beforeWord (by decide) limited
  · exact (tokens_of_spans_gap between).2

/-- What stands before the keyword of a function in Rust. -/
def rustLeading : List Pattern :=
  [rustVisibility, modifier "default", modifier "const", modifier "async", modifier "unsafe",
    optional (row [keyword "extern", optional (row [enclosed "\"" "\"" "\"", gap])])]

theorem awaits_rustLeading : ∀ piece ∈ rustLeading, Awaits rustWords piece := by
  have word {word : String} (row : IsWordRow word.toList) (mem : word.toList ∈ rustWords) :
      Opened rustWords (keyword word) :=
    opened_keyword row mem
  simp only [rustLeading, List.forall_mem_cons]
  exact ⟨awaits_rustVisibility, (word (by decide) (by decide)).awaits_optional,
    (word (by decide) (by decide)).awaits_optional, (word (by decide) (by decide)).awaits_optional,
    (word (by decide) (by decide)).awaits_optional,
    ((word (by decide) (by decide)).row_cons _).awaits_optional, List.forall_mem_nil _⟩

theorem exclusive_rust : Exclusive rust := by
  have declaration : Opened rustWords (row (rustLeading ++ [keyword "fn", name, blanks,
      optional (wide "<" ">"), blanks, exactly "("])) :=
    .row_append awaits_rustLeading ((opened_keyword (by decide) (by decide)).row_cons _)
  have expression : Opened ["let".toList] (keyword "let") :=
    opened_keyword (by decide) (by decide)
  exact exclusive_pair fun line =>
    declaration.not_search_of_search (expression.row_cons _) (by decide)

/-- The words of Ruby that define a method under a name. -/
def defineWords : List Text :=
  ["define_method".toList, "define_singleton_method".toList]

theorem opened_define : Opened defineWords (row [exactly "define", mark "_singleton",
    exactly "_method", blanks, mark "(", blanks, exactly ":", name]) := by
  have bracket : Opened [['('], [':']] (exactly "(") :=
    opened_sign rfl (by decide) (by decide) (by decide)
  have symbol : Opened [['('], [':']] (row [exactly ":", name]) :=
    (opened_sign rfl (by decide) (by decide) (by decide)).row_cons _
  have behind : Opened [['('], [':']] (row [blanks, mark "(", blanks, exactly ":", name]) :=
    .row_of_awaits awaits_blanks (.row_of_awaits bracket.awaits_optional
      (.row_of_awaits awaits_blanks symbol))
  have whole {a m : Place} {word : Text} (isRow : IsWordRow word) (mem : word ∈ defineWords)
      (reads : Place.Reads word a m) (stop : m.beforeWord = false) :
      ∃ token ∈ defineWords, (tokens a.rest).head? = some token :=
    ⟨word, mem, by rw [tokens_of_reads_word isRow reads stop, List.head?_cons]⟩
  intro a b spans
  obtain ⟨m, first, spans⟩ := spans_row_cons.1 spans
  obtain ⟨n, second, spans⟩ := spans_row_cons.1 spans
  obtain ⟨p, third, spans⟩ := spans_row_cons.1 spans
  have stop : p.beforeWord = false := behind.beforeWord (by decide) spans
  rw [spans_exactly_iff] at first third
  rcases second with second | rfl
  · have reads := Place.reads_append_iff.2
      ⟨n, Place.reads_append_iff.2 ⟨m, first, spans_exactly_iff.1 second⟩, third⟩
    exact whole (by decide) (by decide) reads stop
  · exact whole (by decide) (by decide) (Place.reads_append_iff.2 ⟨n, first, third⟩) stop

theorem exclusive_ruby : Exclusive ruby := by
  have declaration : Opened ["def".toList] (keyword "def") :=
    opened_keyword (by decide) (by decide)
  exact exclusive_pair fun line =>
    (declaration.row_cons _).not_search_of_search opened_define (by decide)

end HeaderTable

namespace Language

theorem exclusive_headers {language : Language} (other : language ≠ .java) :
    HeaderTable.Exclusive language.headers := by
  cases language with
  | js => exact HeaderTable.exclusive_js
  | ts => exact HeaderTable.exclusive_ts
  | py => exact HeaderTable.exclusive_py
  | java => exact absurd rfl other
  | go => exact HeaderTable.exclusive_go
  | rust => exact HeaderTable.exclusive_rust
  | ruby => exact HeaderTable.exclusive_ruby

end Language

/-- Outside Java, two shapes that a line has are of one form, and the shapes of a table give the same
form in whatever order they are tried. -/
theorem form_unique_and_headerForm?_perm {language : Language} (other : language ≠ .java) :
    (∀ line : Text, ∀ first ∈ language.headers, ∀ second ∈ language.headers,
      first.2.search line = true → second.2.search line = true → first.1 = second.1) ∧
    ∀ order : HeaderTable, order.Perm language.headers → ∀ line : Text,
      (if isControlFlow line then none else (order.find? (·.2.search line)).map (·.1)) =
        language.headerForm? line := by
  have exclusive := Language.exclusive_headers other
  refine ⟨fun line => @exclusive line, fun order perm line => ?_⟩
  rw [Language.headerForm?, exclusive.find?_perm perm]

/-- A function whose name is an accessor stays a declaration when methods are tried first. -/
theorem form_unique_and_headerForm?_perm_accessorName :
    Language.ts ≠ .java ∧
      (Language.ts.headers.reverse.find? (·.2.search "async function get<T>(key) \x7b".toList)).map
        (·.1) = some .declaration := by
  have other : Language.ts ≠ .java := by decide
  have steers : isControlFlow "async function get<T>(key) \x7b".toList = false := by decide
  have form : Language.ts.headerForm? "async function get<T>(key) \x7b".toList = some .declaration := by
    decide
  have reversed := (form_unique_and_headerForm?_perm other).2 _ (List.reverse_perm _)
    "async function get<T>(key) \x7b".toList
  rw [form, steers] at reversed
  exact ⟨other, reversed⟩

/-- A constructor of Java has the shapes of two forms. -/
example : (HeaderTable.java.filter (·.2.search "public Point(int x) \x7b".toList)).map (·.1) =
    [.declaration, .method] := by
  decide

end PatchSurvey
