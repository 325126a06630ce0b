import PatchSurvey.Proofs.Pattern.Covers

/-! # What stands ahead

Most patterns depend only on the text ahead of them. Where the next token is none that a
piece of a row can begin with, the piece is passed over, and only blanks are read. -/

namespace PatchSurvey.Pattern

open Place Text

/-! ## The text before a place -/

/-- The pattern asks what stands before it. -/
def looksBack : Pattern → Bool
  | textStart | wordEdge => true
  | both first second | either first second => first.looksBack || second.looksBack
  | many body | unlessNext body => body.looksBack
  | nothing | one _ | textEnd => false

/-- From the second place the pattern leads to where it leads from the first one, or stays if it
stays at the first one. -/
def Rejoins (pattern : Pattern) (a c b : Place) : Prop :=
  Spans pattern c b ∨ b = a ∧ Spans pattern c c

namespace Rejoins

variable {first second body : Pattern} {a b c : Place}

theorem both (spans : Spans (both first second) a b)
    (head : ∀ ⦃m : Place⦄, Spans first a m → Rejoins first a c m)
    (tail : Spans second a b → Rejoins second a c b) : Rejoins (both first second) a c b := by
  obtain ⟨m, before, behind⟩ := spans
  rcases head before with left | ⟨rfl, left⟩
  · exact .inl ⟨m, left, behind⟩
  · rcases tail behind with right | ⟨rfl, right⟩
    · exact .inl ⟨c, left, right⟩
    · exact .inr ⟨rfl, c, left, right⟩

theorem either (spans : Spans (either first second) a b)
    (left : Spans first a b → Rejoins first a c b)
    (right : Spans second a b → Rejoins second a c b) : Rejoins (either first second) a c b := by
  rcases spans with spans | spans
  · exact (left spans).imp .inl (.imp_right .inl)
  · exact (right spans).imp .inr (.imp_right .inr)

theorem many (spans : Spans (many body) a b)
    (step : ∀ ⦃m : Place⦄, Spans body a m → Rejoins body a c m) : Rejoins (many body) a c b := by
  rw [Spans] at spans
  induction spans with
  | stop => exact .inr ⟨rfl, .stop c⟩
  | more head tail ih =>
      rcases step head with head | ⟨rfl, -⟩
      · exact .inl (.more head tail)
      · exact ih step

theorem exists_spans (rejoins : Rejoins body a c b) : ∃ d, Spans body c d := by
  rcases rejoins with spans | ⟨-, spans⟩
  · exact ⟨b, spans⟩
  · exact ⟨c, spans⟩

end Rejoins

/-- The pattern does not ask for the start of the text. -/
def startFree : Pattern → Bool
  | textStart => false
  | both first second | either first second => first.startFree && second.startFree
  | many body | unlessNext body => body.startFree
  | nothing | one _ | textEnd | wordEdge => true

/-- What holds of a pattern that looks back holds of its parts that do so. -/
theorem startFree_parts {first second : Pattern} {p : Prop}
    (back : (first.looksBack || second.looksBack) = true →
      (first.startFree && second.startFree) = true ∧ p) :
    (first.looksBack = true → first.startFree = true ∧ p) ∧
      (second.looksBack = true → second.startFree = true ∧ p) := by
  constructor
  · intro looks
    obtain ⟨free, holds⟩ := back (Bool.or_eq_true_iff.2 (.inl looks))
    exact ⟨(Bool.and_eq_true_iff.1 free).1, holds⟩
  · intro looks
    obtain ⟨free, holds⟩ := back (Bool.or_eq_true_iff.2 (.inr looks))
    exact ⟨(Bool.and_eq_true_iff.1 free).2, holds⟩

/-- What stands before a place matters only to word edges and the start of the text. -/
theorem Spans.rejoins {pattern : Pattern} {a b : Place} (spans : Spans pattern a b) {c : Place}
    (same : c.rest = a.rest)
    (back : pattern.looksBack = true → pattern.startFree = true ∧ c.afterWord = a.afterWord) :
    Rejoins pattern a c b := by
  induction pattern generalizing a b c with
  | nothing => exact .inr ⟨spans, rfl⟩
  | one accepts =>
      obtain ⟨x, rest, next, accepted, rfl⟩ := spans
      exact .inl ⟨x, rest, same.trans next, accepted, rfl⟩
  | both first second ihFirst ihSecond =>
      obtain ⟨backFirst, backSecond⟩ := startFree_parts back
      exact .both spans (fun _ head => ihFirst head same backFirst)
        fun tail => ihSecond tail same backSecond
  | either first second ihFirst ihSecond =>
      obtain ⟨backFirst, backSecond⟩ := startFree_parts back
      exact .either spans (fun left => ihFirst left same backFirst)
        fun right => ihSecond right same backSecond
  | many body ih => exact .many spans fun _ head => ih head same back
  | textStart => cases (back rfl).1
  | textEnd =>
      obtain ⟨ends, rfl⟩ := spans
      exact .inr ⟨rfl, by rwa [same], rfl⟩
  | wordEdge =>
      obtain ⟨edge, rfl⟩ := spans
      rw [Place.beforeWord, ← same, ← (back rfl).2] at edge
      exact .inr ⟨rfl, edge, rfl⟩
  | unlessNext body ih =>
      obtain ⟨never, rfl⟩ := spans
      refine .inr ⟨rfl, fun m next => ?_, rfl⟩
      have backThere (looks : body.looksBack = true) :=
        (back looks).imp_right fun after => after.symm
      obtain ⟨d, found⟩ := (ih next same.symm backThere).exists_spans
      exact never d found

/-- A pattern that does not look back spans the same text wherever it stands. -/
theorem Spans.of_rest_eq {pattern : Pattern} {a b : Place} (spans : Spans pattern a b)
    (ahead : pattern.looksBack = false) {c : Place} (same : c.rest = a.rest) :
    ∃ d, d.rest = b.rest ∧ Spans pattern c d := by
  rcases spans.rejoins same fun looks => absurd looks (Bool.eq_false_iff.1 ahead) with
    found | ⟨rfl, found⟩
  · exact ⟨b, rfl, found⟩
  · exact ⟨c, same, found⟩

theorem looksBack_row (pieces : List Pattern) :
    (row pieces).looksBack = pieces.any looksBack := by
  induction pieces with
  | nil => rfl
  | cons first rest ih =>
      cases rest with
      | nil => exact (Bool.or_false _).symm
      | cons next rest => exact congrArg (first.looksBack || ·) ih

/-- The row covers a stretch at the start of the text. -/
def begins (pieces : List Pattern) (text : Text) : Bool :=
  (row (textStart :: pieces)).search text

/-- It may stand behind anything, if the row does not look back. -/
theorem begins_iff {pieces : List Pattern} (ahead : pieces.any looksBack = false) {a : Place} :
    begins pieces a.rest = true ↔ ∃ b, Spans (row pieces) a b := by
  rw [← looksBack_row] at ahead
  constructor
  · intro found
    have anchored : Anchored textStart := fun _ _ spans => spans.1
    obtain ⟨b, spans⟩ := (anchored.row_cons pieces).exists_of_search found
    obtain ⟨m, ⟨-, rfl⟩, spans⟩ := spans_row_cons.1 spans
    obtain ⟨d, -, spans⟩ := spans.of_rest_eq ahead (c := a) rfl
    exact ⟨d, spans⟩
  · rintro ⟨b, spans⟩
    obtain ⟨d, -, spans⟩ := spans.of_rest_eq ahead (c := ⟨none, a.rest⟩) rfl
    exact search_iff.2 ⟨_, mem_places_start none _, d,
      spans_row_cons.2 ⟨_, ⟨rfl, rfl⟩, spans⟩⟩

theorem Covers.begins {pieces : List Pattern} {stretch : Text} (covers : Covers (row pieces) stretch)
    (behind : Text) : begins pieces (stretch ++ behind) = true :=
  search_iff.2 ⟨_, mem_places_start none _, ⟨stretch.getLast?.or none, behind⟩,
    spans_row_cons.2 ⟨_, ⟨rfl, rfl⟩, covers ⟨rfl, rfl⟩⟩⟩

/-! ## Behind blanks -/

/-- A word that is read stands behind blanks at most. -/
theorem trimStart_of_spans_exactly {word : String} {c : Char} {more : Text}
    (begun : word.toList = c :: more) (seen : isBlank c = false) {a b : Place}
    (spans : Spans (exactly word) a b) : trimStart a.rest = word.toList ++ b.rest := by
  rw [(spans_exactly_iff.1 spans).ahead, begun]
  exact trimStart_cons seen _

theorem trimStart_of_spans_blanks {a b : Place} (spans : Spans blanks a b) :
    trimStart a.rest = trimStart b.rest := by
  obtain ⟨stretch, blank, reads⟩ := spans_many_one_iff.1 spans
  rw [reads.ahead, trimStart_blanks_append blank]

theorem trimStart_of_spans_gap {a b : Place} (spans : Spans gap a b) :
    trimStart a.rest = trimStart b.rest := by
  obtain ⟨m, head, tail⟩ := spans
  exact trimStart_of_spans_blanks (.more head tail)

theorem trimStart_of_spans_indent {a b : Place} (spans : Spans indent a b) :
    trimStart a.rest = trimStart b.rest := by
  obtain ⟨m, ⟨-, rfl⟩, before⟩ := spans_row_cons.1 spans
  exact trimStart_of_spans_blanks before

/-! ## The next token -/

/-- Where the pattern spans, one of the tokens is next. -/
def Opened (starts : List Text) (pattern : Pattern) : Prop :=
  ∀ ⦃a b : Place⦄, Spans pattern a b → ∃ token ∈ starts, (tokens a.rest).head? = some token

/-- The pattern reads nothing but blanks, unless one of the tokens is next. -/
def Awaits (starts : List Text) (pattern : Pattern) : Prop :=
  ∀ ⦃a b : Place⦄, Spans pattern a b →
    trimStart a.rest = trimStart b.rest ∨ ∃ token ∈ starts, (tokens a.rest).head? = some token

variable {starts : List Text} {first second body : Pattern} {rest : List Pattern}

theorem opened_oneKeyword {list : List String} (rows : ∀ word ∈ list, IsWordRow word.toList)
    (among : list.map String.toList ⊆ starts) : Opened starts (oneKeyword list) := by
  intro a b spans
  obtain ⟨word, mem, next⟩ := exists_tokens_of_spans_oneKeyword rows spans
  exact ⟨word.toList, among (List.mem_map_of_mem mem), by rw [next, List.head?_cons]⟩

theorem opened_keyword {word : String} (row : IsWordRow word.toList)
    (among : word.toList ∈ starts) : Opened starts (keyword word) :=
  @opened_oneKeyword starts [word] (List.forall_mem_singleton.2 row)
    (List.cons_subset.2 ⟨among, List.nil_subset starts⟩)

theorem opened_sign {sign : String} {c : Char} {more : Text} (begun : sign.toList = c :: more)
    (seen : isBlank c = false) (other : isWord c = false) (among : [c] ∈ starts) :
    Opened starts (exactly sign) := by
  intro a b spans
  have reads := spans_exactly_iff.1 spans
  refine ⟨[c], among, ?_⟩
  rw [reads.ahead, begun, List.cons_append, tokens_sign_cons seen other, List.head?_cons]

/-- A word that ends before what follows it. -/
theorem opened_word_row {word : String} (isRow : IsWordRow word.toList)
    (among : word.toList ∈ starts)
    (stops : ∀ ⦃a b : Place⦄, Spans (row rest) a b → a.beforeWord = false) :
    Opened starts (row (exactly word :: rest)) := by
  intro a b spans
  obtain ⟨m, read, behind⟩ := spans_row_cons.1 spans
  refine ⟨word.toList, among, ?_⟩
  rw [tokens_of_reads_word isRow (spans_exactly_iff.1 read) (stops behind), List.head?_cons]

theorem Opened.row_cons (opened : Opened starts first) (rest : List Pattern) :
    Opened starts (row (first :: rest)) := by
  intro a b spans
  obtain ⟨m, head, -⟩ := spans_row_cons.1 spans
  exact opened head

theorem Opened.either (openedFirst : Opened starts first) (openedSecond : Opened starts second) :
    Opened starts (either first second) :=
  fun _ _ spans => spans.elim (@openedFirst _ _) (@openedSecond _ _)

/-- Behind blanks the same token is next. -/
theorem head?_tokens_of_trimStart {a b : Place} (same : trimStart a.rest = trimStart b.rest) :
    (tokens a.rest).head? = (tokens b.rest).head? := by
  rw [← tokens_trimStart, same, tokens_trimStart]

theorem Opened.row_of_awaits (awaits : Awaits starts first) (opened : Opened starts (row rest)) :
    Opened starts (row (first :: rest)) := by
  intro a b spans
  obtain ⟨m, head, tail⟩ := spans_row_cons.1 spans
  rcases awaits head with same | found
  · rw [head?_tokens_of_trimStart same]
    exact opened tail
  · exact found

theorem awaits_blanks : Awaits starts blanks :=
  fun _ _ spans => .inl (trimStart_of_spans_blanks spans)

theorem Opened.awaits_optional (opened : Opened starts body) : Awaits starts (optional body) := by
  rintro a b (once | rfl)
  · exact .inr (opened once)
  · exact .inl rfl

theorem Opened.awaits_many (opened : Opened starts body) : Awaits starts (many body) := by
  intro a b spans
  cases spans with
  | stop => exact .inl rfl
  | more head _ => exact .inr (opened head)

theorem Awaits.row {pieces : List Pattern} (awaits : ∀ piece ∈ pieces, Awaits starts piece) :
    Awaits starts (row pieces) := by
  induction pieces with
  | nil =>
      intro a b spans
      rw [spans_row_nil.1 spans]
      exact .inl rfl
  | cons first rest ih =>
      obtain ⟨head, tail⟩ := List.forall_mem_cons.1 awaits
      intro a b spans
      obtain ⟨m, before, behind⟩ := spans_row_cons.1 spans
      rcases head before with same | found
      · rw [same, head?_tokens_of_trimStart same]
        exact ih tail behind
      · exact .inr found

theorem Opened.row_append {front : List Pattern} (awaits : ∀ piece ∈ front, Awaits starts piece)
    (opened : Opened starts (Pattern.row rest)) : Opened starts (Pattern.row (front ++ rest)) := by
  intro a b spans
  obtain ⟨m, before, behind⟩ := spans_row_append.1 spans
  rcases Awaits.row awaits before with same | found
  · rw [head?_tokens_of_trimStart same]
    exact opened behind
  · exact found

theorem awaits_indent : Awaits starts indent :=
  fun _ _ spans => .inl (trimStart_of_spans_indent spans)

theorem opened_enclosed {left stops right : String} {c : Char} {more : Text}
    (begun : left.toList = c :: more) (seen : isBlank c = false) (other : isWord c = false)
    (among : [c] ∈ starts) : Opened starts (enclosed left stops right) :=
  (opened_sign begun seen other among).row_cons _

/-- Before a sign no word goes on. -/
theorem Opened.beforeWord (opened : Opened starts first)
    (signs : ∀ token ∈ starts, token.head?.any isWord = false) {a b : Place}
    (spans : Spans first a b) : a.beforeWord = false := by
  obtain ⟨token, mem, next⟩ := opened spans
  obtain ⟨more, whole⟩ := List.head?_eq_some_iff.1 next
  exact not_isWord_head_of_tokens whole (signs token mem)

theorem Opened.exists_head?_of_begins (opened : Opened starts (Pattern.row rest))
    (ahead : rest.any looksBack = false) {text : Text} (begun : begins rest text = true) :
    ∃ token ∈ starts, (tokens text).head? = some token := by
  obtain ⟨b, spans⟩ := (begins_iff ahead (a := ⟨none, text⟩)).1 begun
  exact opened spans

/-- Behind the indentation of a line in which the row is found, one of the tokens is next. -/
theorem Opened.exists_head?_of_search (opened : Opened starts (Pattern.row rest)) {line : Text}
    (found : (Pattern.row (indent :: rest)).search line = true) :
    ∃ token ∈ starts, (tokens line).head? = some token := by
  obtain ⟨b, spans⟩ := (anchored_indent.row_cons rest).exists_of_search found
  exact opened.row_of_awaits awaits_indent spans

/-- Rows that begin with different tokens are not found in the same line. -/
theorem Opened.not_search_of_search {others : List Text} {more : List Pattern}
    (opened : Opened starts (Pattern.row rest)) (openedOther : Opened others (Pattern.row more))
    (apart : ∀ token ∈ starts, token ∉ others) {line : Text}
    (found : (Pattern.row (indent :: rest)).search line = true) :
    (Pattern.row (indent :: more)).search line = false := by
  refine Bool.eq_false_iff.2 fun foundOther => ?_
  obtain ⟨token, mem, first⟩ := opened.exists_head?_of_search found
  obtain ⟨other, memOther, next⟩ := openedOther.exists_head?_of_search foundOther
  obtain rfl : token = other := Option.some.inj (first.symm.trans next)
  exact apart token mem memOther

/-- Behind a name at the start of a line, one of the signs is the second token. -/
theorem Opened.exists_tokens_of_search_name (opened : Opened starts (Pattern.row rest))
    (signs : ∀ token ∈ starts, token.head?.any isWord = false) {line : Text}
    (found : (Pattern.row (indent :: name :: rest)).search line = true) :
    ∃ word, IsWordRow word ∧ ∃ token ∈ starts, ∃ more, tokens line = word :: token :: more := by
  obtain ⟨b, spans⟩ := (anchored_indent.row_cons _).exists_of_search found
  obtain ⟨m, indented, spans⟩ := spans_row_cons.1 spans
  obtain ⟨n, named, spans⟩ := spans_row_cons.1 spans
  obtain ⟨word, isRow, first⟩ := exists_word_of_spans_name named (opened.beforeWord signs spans)
  obtain ⟨token, mem, next⟩ := opened spans
  obtain ⟨more, second⟩ := List.head?_eq_some_iff.1 next
  exact ⟨word, isRow, token, mem, more, by rw [keeps_tokens_indent indented, first, second]⟩

section

variable (ahead : rest.any looksBack = false) {accepts : Char → Bool} {text : Text}
include ahead

/-- A row of characters is read as far as the rest asks for. -/
theorem begins_many_one_iff :
    begins (many (one accepts) :: rest) text = true ↔
      ∃ stretch behind, text = stretch ++ behind ∧ (∀ c ∈ stretch, accepts c = true) ∧
        begins rest behind = true := by
  rw [@begins_iff (many (one accepts) :: rest) ahead ⟨none, text⟩]
  constructor
  · rintro ⟨b, spans⟩
    obtain ⟨m, run, spans⟩ := spans_row_cons.1 spans
    obtain ⟨stretch, accepted, reads⟩ := spans_many_one_iff.1 run
    exact ⟨stretch, m.rest, reads.ahead, accepted, (begins_iff ahead).2 ⟨b, spans⟩⟩
  · rintro ⟨stretch, behind, rfl, accepted, begun⟩
    let m : Place := ⟨stretch.getLast?.or none, behind⟩
    obtain ⟨b, spans⟩ := (begins_iff ahead (a := m)).1 begun
    exact ⟨b, spans_row_cons.2 ⟨m, spans_many_one_iff.2 ⟨stretch, accepted, rfl, rfl⟩, spans⟩⟩

/-- Where no character of the class is next, a row of such characters may be left out. -/
theorem begins_many_one_of_stop (stop : text.head?.any accepts = false) :
    begins (many (one accepts) :: rest) text = begins rest text := by
  rw [Bool.eq_iff_iff, begins_many_one_iff ahead]
  constructor
  · rintro ⟨stretch, behind, rfl, accepted, begun⟩
    cases stretch with
    | nil => exact begun
    | cons c stretch =>
        exact absurd (accepted c (List.mem_cons_self ..)) (Bool.eq_false_iff.1 stop)
  · exact fun begun => ⟨[], text, rfl, List.forall_mem_nil _, begun⟩

/-- A row is found in a line if its first pieces cover the text behind the indentation and the others
begin the rest. -/
theorem Covers.search_indent_of_begins {front : List Pattern} {stretch : Text}
    (covers : Covers (row front) stretch) (indent : Blanks)
    (begun : Pattern.begins rest text = true) :
    (row (Pattern.indent :: (front ++ rest))).search (indent.text ++ (stretch ++ text)) = true := by
  let indented : Place := ⟨indent.text.getLast?.or none, stretch ++ text⟩
  let behind : Place := ⟨stretch.getLast?.or indented.last, text⟩
  obtain ⟨b, spans⟩ := (begins_iff ahead (a := behind)).1 begun
  have indentation : Spans Pattern.indent ⟨none, indent.text ++ (stretch ++ text)⟩ indented :=
    spans_row_cons.2 ⟨_, ⟨rfl, rfl⟩, covers_blanks indent ⟨rfl, rfl⟩⟩
  exact search_iff.2 ⟨_, mem_places_start none _, b, spans_row_cons.2
    ⟨indented, indentation, spans_row_append.2 ⟨behind, covers ⟨rfl, rfl⟩, spans⟩⟩⟩

end

/-- Behind blanks a name is read to its end. -/
theorem rest_of_spans_name {a b : Place} (spans : Spans name a b) {word rest : Text}
    (row : IsWordRow word) (ahead : trimStart a.rest = word ++ rest)
    (stop : rest.head?.any isWord = false) (ends : b.beforeWord = false) : b.rest = rest := by
  obtain ⟨stretch, some, plain, reads⟩ := spans_oneOrMore_one_iff.1 spans
  rw [reads.ahead, trimStart_word_append ⟨some, plain⟩] at ahead
  exact (append_inj_of_stop ahead plain row.2 ends stop).2

end PatchSurvey.Pattern
