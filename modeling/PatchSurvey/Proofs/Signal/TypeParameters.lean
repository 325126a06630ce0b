import PatchSurvey.Proofs.Pattern.Lookahead
import PatchSurvey.Proofs.Signal.ControlFlow
import PatchSurvey.Signal.FunctionTable

/-! # Type parameters in headers

The name of a function may be followed by type parameters in brackets. TypeScript and
Rust look for a closing bracket before the parameters, wherever it is on the line. Go
takes the first closing bracket for the end of the type parameters, so that brackets
within them can hide the header, and the headers of Python have no type parameters. -/

namespace PatchSurvey

open Pattern Text

/-- A language whose functions can have type parameters. -/
inductive GenericLanguage where
  | ts
  | rust
  | go
  | py
deriving DecidableEq, Repr

/-- The start of a header: its indentation, the gap behind the keyword and the name. -/
structure HeaderStart where
  indent : Blanks
  gap : Gap
  name : Word

namespace HeaderStart

/-- The header with a keyword, and what follows the name. -/
def text (start : HeaderStart) (keyword : String) (behind : Text) : Text :=
  start.indent.text ++ (keyword.toList ++ (start.gap.text ++ (start.name.text ++ behind)))

end HeaderStart

/-- A line is no header if it has none of the shapes. -/
theorem Language.headerForm?_eq_none {language : Language} {line : Text}
    (missing : ∀ header ∈ language.headers, header.2.search line = false) :
    language.headerForm? line = none := by
  have none : language.headers.find? (·.2.search line) = none :=
    List.find?_eq_none.2 fun header mem => Bool.eq_false_iff.1 (missing header mem)
  rw [headerForm?, none, Option.map_none, ite_self]

namespace GenericLanguage

def language : GenericLanguage → Language
  | ts => .ts
  | rust => .rust
  | go => .go
  | py => .py

/-- The keyword before the name of a function. -/
def keyword : GenericLanguage → String
  | ts => "function"
  | rust => "fn"
  | go => "func"
  | py => "def"

/-- The brackets around type parameters. -/
def brackets : GenericLanguage → Char × Char
  | ts | rust => ('<', '>')
  | go | py => ('[', ']')

/-- A header without type parameters. -/
def plainHeader (language : GenericLanguage) (start : HeaderStart) (rest : Text) : Text :=
  start.text language.keyword ('(' :: rest)

/-- A header with type parameters. -/
def genericHeader (language : GenericLanguage) (start : HeaderStart) (types rest : Text) : Text :=
  start.text language.keyword
    (language.brackets.1 :: (types ++ language.brackets.2 :: '(' :: rest))

/-- The first closing bracket is within the type parameters, and no parameters follow it. -/
def cutShort (types : Text) : Bool :=
  match types.dropWhile (· ≠ ']') with
  | [] => false
  | _ :: behind => (trimStart behind).head? != some '('

/-- The type parameters hide the header. -/
def hides : GenericLanguage → Text → Bool
  | ts, _ | rust, _ => false
  | go, types => cutShort types
  | py, _ => true

/-! ## The first tokens -/

variable {language : GenericLanguage} {start : HeaderStart} {behind : Text}

theorem isWordRow_keyword (language : GenericLanguage) : IsWordRow language.keyword.toList := by
  cases language <;> decide

theorem tokens_text (stop : behind.head?.any isWord = false) :
    tokens (start.text language.keyword behind) =
      language.keyword.toList :: start.name.text :: tokens behind := by
  calc
    tokens (start.text language.keyword behind) =
        tokens (language.keyword.toList ++ (start.gap.text ++ (start.name.text ++ behind))) :=
      start.indent.tokens_append _
    _ = language.keyword.toList :: tokens (start.gap.text ++ (start.name.text ++ behind)) :=
      tokens_word_append language.isWordRow_keyword (start.gap.isWord_head?_append _)
    _ = language.keyword.toList :: tokens (start.name.text ++ behind) := by
      rw [start.gap.tokens_append]
    _ = language.keyword.toList :: start.name.text :: tokens behind := by
      rw [tokens_word_append start.name.row stop]

theorem isControlFlow_text (stop : behind.head?.any isWord = false) :
    isControlFlow (start.text language.keyword behind) = false := by
  refine Bool.eq_false_iff.2 fun found => ?_
  have steers := steers_of_isControlFlow found
  rw [tokens_text stop] at steers
  have apart : language.keyword.toList ∉ steeringStarts := by
    cases language <;> decide
  exact apart steers.mem_starts

/-! ## Headers that are found -/

/-- The pieces of a declaration up to the name. -/
def namePieces : GenericLanguage → List Pattern
  | ts => [modifier "export", modifier "default", modifier "declare", modifier "async",
      exactly "function", wordEdge, blanks, mark "*", blanks, Pattern.name]
  | rust => [HeaderTable.rustVisibility, modifier "default", modifier "const", modifier "async",
      modifier "unsafe", optional (row [Pattern.keyword "extern",
        optional (row [enclosed "\"" "\"" "\"", gap])]), Pattern.keyword "fn", Pattern.name]
  | go => [Pattern.keyword "func",
      optional (row [exactly "(", blanks, many wordChar, blanks, mark "*", oneOrMore (wordOr "."),
        optional (enclosed "[" "]" "]"), blanks, exactly ")", blanks]), Pattern.name]
  | py => [modifier "async", Pattern.keyword "def", Pattern.name]

/-- The pieces of a declaration behind the name. -/
def parameterPieces : GenericLanguage → List Pattern
  | ts | rust => [blanks, optional (wide "<" ">"), blanks, exactly "("]
  | go => [blanks, optional (enclosed "[" "]" "]"), blanks, exactly "("]
  | py => [blanks, exactly "("]

/-- A declaration of the language. -/
def declaration (language : GenericLanguage) : Pattern :=
  row (Pattern.indent :: (language.namePieces ++ language.parameterPieces))

theorem exists_headers_eq (language : GenericLanguage) :
    ∃ others, language.language.headers = (.declaration, language.declaration) :: others := by
  cases language <;> exact ⟨_, rfl⟩

theorem covers_namePieces (language : GenericLanguage) (start : HeaderStart) :
    Covers (row language.namePieces)
      (language.keyword.toList ++ (start.gap.text ++ start.name.text)) := by
  have name : Covers (row [Pattern.name]) start.name.text := covers_name start.name
  have keyword (word : String) :
      Covers (row [Pattern.keyword word, Pattern.name])
        (word.toList ++ (start.gap.text ++ start.name.text)) := by
    rw [← List.append_assoc]
    exact (covers_keyword word start.gap).row_cons name
  cases language with
  | ts =>
      have edge : Covers (row [exactly "function", wordEdge, blanks, mark "*", blanks, Pattern.name])
          ("function".toList ++ (start.gap.text ++ start.name.text)) :=
        .row_word_edge rfl (by decide) (start.gap.isWord_head?_append _)
          (List.append_ne_nil_of_left_ne_nil start.gap.some _)
          ((covers_blanks start.gap.toBlanks).row_cons
            (.row_skip covers_optional_nil (.row_skip covers_blanks_nil name)))
      exact .row_skip covers_optional_nil (.row_skip covers_optional_nil
        (.row_skip covers_optional_nil (.row_skip covers_optional_nil edge)))
  | rust =>
      exact .row_skip covers_optional_nil (.row_skip covers_optional_nil
        (.row_skip covers_optional_nil (.row_skip covers_optional_nil
          (.row_skip covers_optional_nil (.row_skip covers_optional_nil (keyword "fn"))))))
  | go =>
      rw [← List.append_assoc]
      exact (covers_keyword "func" start.gap).row_cons (.row_skip covers_optional_nil name)
  | py => exact .row_skip covers_optional_nil (keyword "def")

theorem parameterPieces_ahead (language : GenericLanguage) :
    language.parameterPieces.any looksBack = false := by
  cases language <;> decide

/-- A declaration is found where its parameters begin behind the name. -/
theorem search_declaration_of_begins (begun : begins language.parameterPieces behind = true) :
    language.declaration.search (start.text language.keyword behind) = true := by
  have found := (covers_namePieces language start).search_indent_of_begins
    language.parameterPieces_ahead start.indent begun
  simpa only [HeaderStart.text, declaration, List.append_assoc] using found

theorem headerForm?_of_begins (stop : behind.head?.any isWord = false)
    (begun : begins language.parameterPieces behind = true) :
    language.language.headerForm? (start.text language.keyword behind) = some .declaration := by
  obtain ⟨others, first⟩ := language.exists_headers_eq
  have found : language.declaration.search (start.text language.keyword behind) = true :=
    search_declaration_of_begins begun
  rw [Language.headerForm?, isControlFlow_text stop, if_neg Bool.false_ne_true, first,
    List.find?_cons, found]
  rfl

/-! ## Headers of Go and Python that are not found -/

/-- A name that is bound is not followed by another name. -/
theorem not_search_binding {others : List Pattern}
    (opened : Opened [[':'], ['=']] (row others)) (stop : behind.head?.any isWord = false) :
    (row (Pattern.indent :: Pattern.name :: others)).search (start.text language.keyword behind) =
      false := by
  refine Bool.eq_false_iff.2 fun found => ?_
  obtain ⟨word, -, token, mem, more, bound⟩ :=
    opened.exists_tokens_of_search_name (by decide) found
  rw [tokens_text stop] at bound
  have row : IsWordRow token := (List.cons.inj (List.cons.inj bound).2).1 ▸ start.name.row
  have signs : ∀ token ∈ [[':'], ['=']], ¬ IsWordRow token := by decide
  exact signs token mem row

/-- In Python the parameters stand right behind the name. -/
theorem not_search_declaration_py :
    py.declaration.search (start.text py.keyword ('[' :: behind)) = false := by
  refine Bool.eq_false_iff.2 fun found => ?_
  have whole : tokens (start.text py.keyword ('[' :: behind)) =
      "def".toList :: start.name.text :: ['['] :: tokens behind := by
    rw [tokens_text rfl, tokens_sign_cons (by decide) (by decide)]
    rfl
  obtain ⟨b, spans⟩ := (anchored_indent.row_cons _).exists_of_search found
  obtain ⟨m, indented, spans⟩ := spans_row_cons.1 spans
  obtain ⟨n, modified, spans⟩ := spans_row_cons.1 spans
  obtain ⟨p, defined, spans⟩ := spans_row_cons.1 spans
  obtain ⟨q, named, spans⟩ := spans_row_cons.1 spans
  have first : tokens m.rest = "def".toList :: start.name.text :: ['['] :: tokens behind := by
    rw [← keeps_tokens_indent indented, whole]
  have same : n = m := by
    rcases modified with modified | rfl
    · obtain ⟨word, mem, other⟩ :=
        @exists_tokens_of_spans_oneKeyword m n ["async"] (by decide) modified
      rw [first] at other
      rw [List.mem_singleton.1 mem] at other
      exact absurd (List.cons.inj other).1 (by decide)
    · rfl
  obtain ⟨word, -, second⟩ :=
    @exists_tokens_of_spans_oneKeyword n p ["def"] (by decide) defined
  have bracket : Opened [['(']] (row [blanks, exactly "("]) :=
    .row_of_awaits awaits_blanks (opened_sign rfl (by decide) (by decide) (by decide))
  obtain ⟨name, -, third⟩ :=
    exists_word_of_spans_name named (bracket.beforeWord (by decide) spans)
  obtain ⟨token, mem, next⟩ := bracket spans
  rw [same, first, third] at second
  rw [← (List.cons.inj (List.cons.inj second).2).2, List.head?_cons] at next
  rw [← Option.some.inj next] at mem
  exact absurd mem (by decide)

/-- In Go the parameters stand behind the first closing bracket. -/
theorem begins_go_iff :
    begins go.parameterPieces ('[' :: behind) = true ↔
      (trimStart (behind.dropWhile (· ≠ ']')).tail).head? = some '(' := by
  constructor
  · intro begun
    obtain ⟨b, spans⟩ := (begins_iff go.parameterPieces_ahead (a := ⟨none, _⟩)).1 begun
    obtain ⟨m, before, spans⟩ := spans_row_cons.1 spans
    obtain ⟨n, types, spans⟩ := spans_row_cons.1 spans
    obtain ⟨p, between, parameters⟩ := spans_row_cons.1 spans
    have same : trimStart m.rest = '[' :: behind := by
      rw [← trimStart_of_spans_blanks before]
      exact trimStart_cons (by decide) behind
    have next : trimStart n.rest = '(' :: b.rest := by
      rw [trimStart_of_spans_blanks between]
      exact trimStart_of_spans_exactly rfl (by decide) parameters
    rcases types with types | rfl
    · obtain ⟨q, opening, types⟩ := spans_row_cons.1 types
      obtain ⟨r, inner, closing⟩ := spans_row_cons.1 types
      obtain ⟨stretch, free, reads⟩ := spans_many_one_iff.1 inner
      have opened : trimStart m.rest = '[' :: q.rest :=
        trimStart_of_spans_exactly rfl (by decide) opening
      have closed : r.rest = ']' :: n.rest := (spans_exactly_iff.1 closing).ahead
      have whole : behind = stretch ++ ']' :: n.rest := by
        rw [← closed, ← reads.ahead, (List.cons.inj (same.symm.trans opened)).2]
      have plain : ']' ∉ stretch := fun mem => absurd (free _ mem) (by decide)
      rw [whole, dropWhile_ne_append plain, List.tail_cons, next, List.head?_cons]
    · rw [same] at next
      exact absurd (List.cons.inj next).1 (by decide)
  · intro parameters
    by_cases mem : ']' ∈ behind
    · obtain ⟨inner, after, rfl, free⟩ := List.eq_append_cons_of_mem mem
      rw [dropWhile_ne_append free, List.tail_cons] at parameters
      obtain ⟨between, rest, blank, rfl⟩ := exists_append_of_head?_trimStart parameters
      have plain : ∀ c ∈ inner, c ∉ "]".toList := by
        intro c mem stop
        obtain rfl : c = ']' := List.mem_singleton.1 stop
        exact free mem
      have covers : Covers (row go.parameterPieces)
          ("[".toList ++ (inner ++ "]".toList) ++ (between ++ "(".toList)) :=
        .row_skip covers_blanks_nil ((covers_enclosed plain).optional.row_cons
          ((covers_many_one blank).row_cons (covers_exactly "(").row_singleton))
      have whole : '[' :: (inner ++ ']' :: (between ++ '(' :: rest)) =
          "[".toList ++ (inner ++ "]".toList) ++ (between ++ "(".toList) ++ rest := by
        simp
      rw [whole]
      exact covers.begins rest
    · rw [dropWhile_ne_eq_nil mem] at parameters
      cases parameters

theorem begins_of_search_go
    (found : go.declaration.search (start.text go.keyword ('[' :: behind)) = true) :
    begins go.parameterPieces ('[' :: behind) = true := by
  obtain ⟨b, spans⟩ := (anchored_indent.row_cons _).exists_of_search found
  obtain ⟨m, indented, spans⟩ := spans_row_cons.1 spans
  obtain ⟨n, function, spans⟩ := spans_row_cons.1 spans
  obtain ⟨p, receiver, spans⟩ := spans_row_cons.1 spans
  obtain ⟨q, named, parameters⟩ := spans_row_cons.1 spans
  obtain ⟨k, word, between⟩ := spans_row_cons.1 function
  have next : trimStart m.rest =
      go.keyword.toList ++ (start.gap.text ++ (start.name.text ++ '[' :: behind)) := by
    rw [← trimStart_of_spans_indent indented]
    calc
      trimStart (start.text go.keyword ('[' :: behind)) =
          trimStart (go.keyword.toList ++ (start.gap.text ++ (start.name.text ++ '[' :: behind))) :=
        trimStart_blanks_append start.indent.isBlank_of_mem _
      _ = go.keyword.toList ++ (start.gap.text ++ (start.name.text ++ '[' :: behind)) :=
        trimStart_word_append go.isWordRow_keyword _
  have behindWord : k.rest = start.gap.text ++ (start.name.text ++ '[' :: behind) :=
    List.append_cancel_left ((trimStart_of_spans_exactly rfl (by decide) word).symm.trans next)
  have atName : trimStart n.rest = start.name.text ++ '[' :: behind := by
    rw [← trimStart_of_spans_gap between, behindWord,
      trimStart_blanks_append start.gap.isBlank_of_mem, trimStart_word_append start.name.row]
  have noReceiver : p = n := by
    rcases receiver with receiver | rfl
    · obtain ⟨o, opening, -⟩ := spans_row_cons.1 receiver
      have bracket : trimStart n.rest = '(' :: o.rest :=
        trimStart_of_spans_exactly rfl (by decide) opening
      have tokens : tokens (start.name.text ++ '[' :: behind) = start.name.text :: tokens ('[' :: behind) :=
        tokens_word_append start.name.row rfl
      rw [← atName, bracket, tokens_sign_cons (by decide) (by decide)] at tokens
      have row : IsWordRow ['('] := (List.cons.inj tokens).1 ▸ start.name.row
      exact absurd row (by decide)
    · rfl
  have brackets : Opened [['['], ['(']] (row go.parameterPieces) :=
    .row_of_awaits awaits_blanks (.row_of_awaits
      (opened_enclosed rfl (by decide) (by decide) (by decide)).awaits_optional
      (.row_of_awaits awaits_blanks (opened_sign rfl (by decide) (by decide) (by decide))))
  have ends : q.beforeWord = false := brackets.beforeWord (by decide) parameters
  have behindName : q.rest = '[' :: behind :=
    rest_of_spans_name named start.name.row (noReceiver ▸ atName) rfl ends
  have found := (begins_iff go.parameterPieces_ahead (a := q)).2 ⟨b, parameters⟩
  rwa [behindName] at found

/-- Behind the type parameters stand the parameters, so only a bracket within them can come
first. -/
theorem head?_trimStart_iff_cutShort (types rest : Text) :
    (trimStart ((types ++ ']' :: '(' :: rest).dropWhile (· ≠ ']')).tail).head? = some '(' ↔
      cutShort types = false := by
  by_cases mem : ']' ∈ types
  · obtain ⟨inner, after, rfl, free⟩ := List.eq_append_cons_of_mem mem
    rw [cutShort, dropWhile_ne_append free, List.append_assoc, List.cons_append,
      dropWhile_ne_append free, List.tail_cons, bne_eq_false_iff_eq, head?_trimStart_append,
      trimStart_cons (by decide)]
    cases trimStart after with
    | nil => exact iff_of_false (by simp) (by simp)
    | cons c more => rfl
  · rw [cutShort, dropWhile_ne_eq_nil mem, dropWhile_ne_append mem, List.tail_cons,
      trimStart_cons (by decide)]
    exact iff_of_true rfl rfl

/-! ## Both kinds of headers -/

/-- A header without type parameters is a declaration. -/
theorem headerForm?_plainHeader (language : GenericLanguage) (start : HeaderStart) (rest : Text) :
    language.language.headerForm? (language.plainHeader start rest) = some .declaration := by
  have bracket : Covers (row [blanks, exactly "("]) "(".toList :=
    .row_skip covers_blanks_nil (covers_exactly "(").row_singleton
  have covers : Covers (row language.parameterPieces) "(".toList := by
    cases language with
    | ts | rust | go => exact .row_skip covers_blanks_nil (.row_skip covers_optional_nil bracket)
    | py => exact bracket
  exact headerForm?_of_begins rfl (covers.begins rest)

/-- Between angle brackets there may be anything on the same line. -/
theorem begins_wide {types : Text} (flat : '\n' ∉ types) (rest : Text) :
    begins [blanks, optional (wide "<" ">"), blanks, exactly "("] ('<' :: (types ++ '>' :: '(' :: rest)) =
      true := by
  have plain : ∀ c ∈ types, c ∉ "\n".toList := by
    intro c mem stop
    obtain rfl : c = '\n' := List.mem_singleton.1 stop
    exact flat mem
  have covers : Covers (row [blanks, optional (wide "<" ">"), blanks, exactly "("])
      ("<".toList ++ (types ++ ">".toList) ++ "(".toList) :=
    .row_skip covers_blanks_nil ((covers_enclosed plain).optional.row_cons
      (.row_skip covers_blanks_nil (covers_exactly "(").row_singleton))
  have whole : '<' :: (types ++ '>' :: '(' :: rest) =
      "<".toList ++ (types ++ ">".toList) ++ "(".toList ++ rest := by
    simp
  rw [whole]
  exact covers.begins rest

theorem headerForm?_genericHeader_go (start : HeaderStart) (types rest : Text) :
    Language.go.headerForm? (go.genericHeader start types rest) =
      if cutShort types then none else some .declaration := by
  have begun : begins go.parameterPieces ('[' :: (types ++ ']' :: '(' :: rest)) = !cutShort types := by
    rw [Bool.eq_iff_iff, begins_go_iff, head?_trimStart_iff_cutShort, Bool.not_eq_true']
  cases short : cutShort types with
  | false =>
      rw [short] at begun
      exact @headerForm?_of_begins go _ _ rfl begun
  | true =>
      have binding : Opened [[':'], ['=']]
          (row [blanks, mark ":", exactly "=", blanks, exactly "func", blanks, exactly "("]) :=
        .row_of_awaits awaits_blanks (.row_of_awaits
          (opened_sign rfl (by decide) (by decide) (by decide)).awaits_optional
          ((opened_sign rfl (by decide) (by decide) (by decide)).row_cons _))
      have noExpression : (row [Pattern.indent, Pattern.name, blanks, mark ":", exactly "=", blanks,
          exactly "func", blanks, exactly "("]).search (go.genericHeader start types rest) = false :=
        @not_search_binding go start _ _ binding rfl
      have noDeclaration : go.declaration.search (go.genericHeader start types rest) = false := by
        refine Bool.eq_false_iff.2 fun found => ?_
        have begunAlso : begins go.parameterPieces ('[' :: (types ++ ']' :: '(' :: rest)) = true :=
          begins_of_search_go found
        rw [begunAlso, short] at begun
        cases begun
      exact Language.headerForm?_eq_none (List.forall_mem_cons.2
        ⟨noDeclaration, List.forall_mem_singleton.2 noExpression⟩)

theorem headerForm?_genericHeader_py (start : HeaderStart) (types rest : Text) :
    Language.py.headerForm? (py.genericHeader start types rest) = none := by
  have binding : Opened [[':'], ['=']]
      (row [blanks, annotation, exactly "=", blanks, exactly "lambda", wordEdge]) := by
    have typed : Opened [[':'], ['=']] (row [exactly ":", oneOrMore (except "=")]) :=
      (opened_sign rfl (by decide) (by decide) (by decide)).row_cons _
    exact .row_of_awaits awaits_blanks (.row_of_awaits typed.awaits_optional
      ((opened_sign rfl (by decide) (by decide) (by decide)).row_cons _))
  have noExpression : (row [Pattern.indent, Pattern.name, blanks, annotation, exactly "=", blanks,
      exactly "lambda", wordEdge]).search (py.genericHeader start types rest) = false :=
    @not_search_binding py start _ _ binding rfl
  exact Language.headerForm?_eq_none (List.forall_mem_cons.2
    ⟨not_search_declaration_py, List.forall_mem_singleton.2 noExpression⟩)

/-- A header without type parameters is a declaration. The same header with type parameters is one
too, unless they hide it: always in Python, and in Go where brackets within them come first. -/
theorem headerForm?_plainHeader_and_genericHeader (language : GenericLanguage)
    (start : HeaderStart) {types : Text} (flat : '\n' ∉ types) (rest : Text) :
    language.language.headerForm? (language.plainHeader start rest) = some .declaration ∧
      language.language.headerForm? (language.genericHeader start types rest) =
        if language.hides types then none else some .declaration := by
  refine ⟨language.headerForm?_plainHeader start rest, ?_⟩
  cases language with
  | ts => exact @headerForm?_of_begins ts _ _ rfl (begins_wide flat rest)
  | rust => exact @headerForm?_of_begins rust _ _ rfl (begins_wide flat rest)
  | go => exact headerForm?_genericHeader_go start types rest
  | py => exact headerForm?_genericHeader_py start types rest

/-- The start of the header of a function that sorts. -/
def sortStart : HeaderStart where
  indent := .none
  gap := .space
  name := ⟨"Sort".toList, by decide⟩

/-- Type parameters with brackets in them. -/
def sliceTypes : Text :=
  "S ~[]E, E cmp.Ordered".toList

theorem headerForm?_genericHeader_sort :
    '\n' ∉ sliceTypes ∧
      go.genericHeader sortStart sliceTypes "x S) \x7b".toList =
        "func Sort[S ~[]E, E cmp.Ordered](x S) \x7b".toList ∧
      Language.go.headerForm? (go.plainHeader sortStart "x S) \x7b".toList) = some .declaration ∧
      Language.go.headerForm? (go.genericHeader sortStart sliceTypes "x S) \x7b".toList) = none := by
  have flat : '\n' ∉ sliceTypes := by decide
  obtain ⟨plain, generic⟩ :=
    headerForm?_plainHeader_and_genericHeader go sortStart flat "x S) \x7b".toList
  exact ⟨flat, by decide, plain, generic.trans (if_pos (by decide))⟩

/-- Every bracket is closed, given the number of brackets that are open. -/
def closesAll (brackets : Char × Char) : Nat → Text → Bool
  | depth, [] => depth == 0
  | depth, c :: text =>
      if c = brackets.1 then closesAll brackets (depth + 1) text
      else if c = brackets.2 then depth != 0 && closesAll brackets (depth - 1) text
      else closesAll brackets depth text

/-- Type parameters that are closed hide the header in Go and in Python. -/
theorem headerForm?_genericHeader_closed :
    closesAll go.brackets 0 sliceTypes = true ∧
      Language.go.headerForm? (go.genericHeader sortStart sliceTypes "x S) \x7b".toList) = none ∧
      Language.go.headerForm? (go.plainHeader sortStart "x S) \x7b".toList) = some .declaration ∧
      py.genericHeader sortStart "T".toList "x):".toList = "def Sort[T](x):".toList ∧
      closesAll py.brackets 0 "T".toList = true ∧
      Language.py.headerForm? (py.genericHeader sortStart "T".toList "x):".toList) = none ∧
      Language.py.headerForm? (py.plainHeader sortStart "x):".toList) = some .declaration := by
  have short : cutShort sliceTypes = true := by decide
  exact ⟨by decide, (headerForm?_genericHeader_go ..).trans (if_pos short),
    go.headerForm?_plainHeader .., by decide, by decide,
    headerForm?_genericHeader_py .., py.headerForm?_plainHeader ..⟩

end GenericLanguage

end PatchSurvey
