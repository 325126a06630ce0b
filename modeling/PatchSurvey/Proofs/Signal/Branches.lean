import PatchSurvey.Proofs.Pattern.Lookahead
import PatchSurvey.Proofs.Signal.JavaHeads
import PatchSurvey.Proofs.Signal.ScriptMethods

/-! # Branches and headers

A line that begins with a keyword of control flow is no header in JavaScript. The tables
of TypeScript and Java only look for a bracket behind the keyword. Where something else
follows, the keyword is taken for the name or the type of a method. -/

namespace PatchSurvey

open Pattern Text

/-- Keywords of control flow in languages with braces. -/
def branchWords : List String :=
  ["for", "while", "if", "else", "switch", "catch"]

/-- A line that begins with a keyword of control flow, behind a closing brace or not. -/
structure BranchLine where
  indent : Blanks
  /-- The blanks behind the brace. -/
  closing : Option Blanks
  word : String
  rest : Text
  mem : word ∈ branchWords
  stop : rest.head?.any isWord = false

namespace BranchLine

/-- The line as it is written. -/
def text (line : BranchLine) : Text :=
  line.indent.text ++ (line.closing.elim [] (fun blanks => '\x7d' :: blanks.text) ++
    (line.word.toList ++ line.rest))

theorem isWordRow_word (line : BranchLine) : IsWordRow line.word.toList := by
  have rows : ∀ word ∈ branchWords, IsWordRow word.toList := by decide
  exact rows line.word line.mem

theorem tokens_text (line : BranchLine) :
    tokens line.text =
      (line.closing.map fun _ => ['\x7d']).toList ++ (line.word.toList :: tokens line.rest) := by
  rw [text, line.indent.tokens_append, ← tokens_word_append line.isWordRow_word line.stop]
  cases line.closing with
  | none => rfl
  | some blanks =>
      rw [Option.elim_some, List.cons_append, tokens_sign_cons (by decide) (by decide),
        blanks.tokens_append]
      rfl

/-- The tokens that such a line can begin with. -/
def starts : List Text :=
  ['\x7d'] :: branchWords.map String.toList

theorem exists_head?_tokens (line : BranchLine) :
    ∃ token ∈ starts, (tokens line.text).head? = some token := by
  rw [tokens_text]
  cases line.closing with
  | none => exact ⟨_, List.mem_cons_of_mem _ (List.mem_map_of_mem line.mem), rfl⟩
  | some => exact ⟨_, List.mem_cons_self .., rfl⟩

/-- The line is no header if the table only has headers that begin otherwise. -/
theorem not_search_of_opened (line : BranchLine) {others : List Text} {pieces : List Pattern}
    (opened : Opened others (row pieces)) (apart : ∀ token ∈ starts, token ∉ others) :
    (row (Pattern.indent :: pieces)).search line.text = false := by
  refine Bool.eq_false_iff.2 fun found => ?_
  obtain ⟨token, mem, first⟩ := line.exists_head?_tokens
  obtain ⟨other, among, next⟩ := opened.exists_head?_of_search found
  obtain rfl : token = other := Option.some.inj (first.symm.trans next)
  exact apart token mem among

theorem trimStart_text {line : BranchLine} (free : line.closing = none) :
    trimStart line.text = line.word.toList ++ line.rest := by
  obtain ⟨c, word, whole⟩ := List.exists_cons_of_ne_nil line.isWordRow_word.1
  have seen : isBlank c = false :=
    not_isBlank_of_isWord (line.isWordRow_word.2 c (by rw [whole]; exact List.mem_cons_self ..))
  rw [text, trimStart_blanks_append line.indent.isBlank_of_mem, free, whole]
  exact trimStart_of_head? seen

theorem trimStart_text_of_closing {line : BranchLine} {blanks : Blanks}
    (closed : line.closing = some blanks) :
    ∃ more, trimStart line.text = '\x7d' :: more := by
  rw [text, trimStart_blanks_append line.indent.isBlank_of_mem, closed]
  exact ⟨_, trimStart_of_head? (by simp +decide)⟩

/-! ## A row of characters at the keyword -/

section

variable {others : List Text} {front back : List Pattern} {accepts : Char → Bool}

/-- A header that is found takes up the keyword with its row of characters. -/
theorem closing_and_begins_of_search {line : BranchLine}
    (awaits : ∀ piece ∈ front, Awaits others piece) (apart : ∀ token ∈ starts, token ∉ others)
    (visible : ∀ c, accepts c = true → isBlank c = false ∧ c ≠ '\x7d')
    (ahead : back.any looksBack = false)
    (ends : ∀ ⦃a b : Place⦄, Spans (row back) a b → a.beforeWord = false)
    (found : (row (Pattern.indent :: (front ++ oneOrMore (one accepts) :: back))).search line.text =
      true) :
    line.closing = none ∧ begins (many (one accepts) :: back) line.rest = true := by
  obtain ⟨b, spans⟩ := (anchored_indent.row_cons _).exists_of_search found
  rw [← List.cons_append, spans_row_append] at spans
  obtain ⟨p, before, spans⟩ := spans
  obtain ⟨q, run, after⟩ := spans_row_cons.1 spans
  obtain ⟨stretch, some, accepted, reads⟩ := spans_oneOrMore_one_iff.1 run
  -- only the indentation stands before the row of characters
  have same : trimStart line.text = trimStart p.rest := by
    have all : ∀ piece ∈ Pattern.indent :: front, Awaits others piece :=
      List.forall_mem_cons.2 ⟨awaits_indent, awaits⟩
    rcases Awaits.row all before with same | ⟨other, among, next⟩
    · exact same
    · obtain ⟨token, mem, first⟩ := line.exists_head?_tokens
      obtain rfl : token = other := Option.some.inj (first.symm.trans next)
      exact absurd among (apart token mem)
  obtain ⟨c, more, nonempty⟩ := List.exists_cons_of_ne_nil some
  have first := visible c (accepted c (by rw [nonempty]; exact List.mem_cons_self ..))
  have start : trimStart p.rest = stretch ++ q.rest := by
    rw [reads.ahead, nonempty]
    exact trimStart_of_head? first.1
  cases closed : line.closing with
  | some blanks =>
      obtain ⟨behind, whole⟩ := trimStart_text_of_closing closed
      rw [same, start, nonempty] at whole
      exact absurd (List.cons.inj whole).1 first.2
  | none =>
      have whole : line.word.toList ++ line.rest = stretch ++ q.rest := by
        rw [← trimStart_text closed, same, start]
      obtain ⟨more, rfl, rest⟩ :=
        exists_eq_append_of_stop whole line.isWordRow_word.2 (ends after)
      have acceptedMore : ∀ c ∈ more, accepts c = true :=
        fun c mem => accepted c (List.mem_append_right _ mem)
      exact ⟨rfl, (begins_many_one_iff ahead).2
        ⟨more, q.rest, rest, acceptedMore, (begins_iff ahead).2 ⟨b, after⟩⟩⟩

/-- A header whose row of characters takes up the keyword is found. -/
theorem search_of_begins {line : BranchLine} (empty : Covers (row front) [])
    (words : ∀ c, isWord c = true → accepts c = true) (ahead : back.any looksBack = false)
    (free : line.closing = none)
    (begun : begins (many (one accepts) :: back) line.rest = true) :
    (row (Pattern.indent :: (front ++ oneOrMore (one accepts) :: back))).search line.text = true := by
  obtain ⟨more, behind, same, accepted, begun⟩ := (begins_many_one_iff ahead).1 begun
  have taken : Covers (oneOrMore (one accepts)) (line.word.toList ++ more) := by
    refine covers_oneOrMore_one (List.append_ne_nil_of_left_ne_nil line.isWordRow_word.1 _)
      fun c mem => ?_
    rcases List.mem_append.1 mem with mem | mem
    · exact words c (line.isWordRow_word.2 c mem)
    · exact accepted c mem
  have found := (empty.row_append taken.row_singleton).search_indent_of_begins ahead line.indent begun
  have whole : line.text = line.indent.text ++ ([] ++ (line.word.toList ++ more) ++ behind) := by
    rw [text, free, same]
    simp
  rw [whole]
  rwa [List.append_assoc front] at found

/-- A header that has a row of characters where the line has its keyword takes up the keyword, and
goes on behind it. -/
theorem search_text_iff (line : BranchLine) (awaits : ∀ piece ∈ front, Awaits others piece)
    (apart : ∀ token ∈ starts, token ∉ others) (empty : Covers (row front) [])
    (words : ∀ c, isWord c = true → accepts c = true)
    (visible : ∀ c, accepts c = true → isBlank c = false ∧ c ≠ '\x7d')
    (ahead : back.any looksBack = false)
    (ends : ∀ ⦃a b : Place⦄, Spans (row back) a b → a.beforeWord = false) :
    (row (Pattern.indent :: (front ++ oneOrMore (one accepts) :: back))).search line.text = true ↔
      line.closing = none ∧ begins (many (one accepts) :: back) line.rest = true :=
  ⟨closing_and_begins_of_search awaits apart visible ahead ends,
    fun ⟨free, begun⟩ => search_of_begins empty words ahead free begun⟩

end

end BranchLine

/-! ## One shape decides -/

/-- Where only one shape of the table can be found in a line, it decides. -/
theorem Language.headerForm?_eq_of_only {language : Language} {line : Text} {form : Form}
    {shape : Pattern} (mem : (form, shape) ∈ language.headers)
    (only : ∀ header ∈ language.headers, header.2.search line = true → header = (form, shape)) :
    language.headerForm? line =
      if !isControlFlow line && shape.search line then some form else none := by
  rw [headerForm?]
  cases isControlFlow line with
  | true => rfl
  | false =>
      rw [if_neg Bool.false_ne_true, Bool.not_false, Bool.true_and]
      split
      · rename_i found
        have unique : ∀ header ∈ language.headers, header.2.search line = true → form = header.1 :=
          fun header among covers => by rw [only header among covers]
        exact HeaderTable.find?_of_unique unique mem found
      · rename_i missing
        have none : language.headers.find? (·.2.search line) = none := by
          refine List.find?_eq_none.2 fun header among covers => missing ?_
          rw [only header among covers] at covers
          exact covers
        rw [none, Option.map_none]

namespace BranchLine

/-- The line goes on with `if` and a bracket behind the keyword `else`. -/
def isElseIf (line : BranchLine) : Bool :=
  line.word == "else" && (tokens line.rest).take 2 == ["if".toList, ['(']]

theorem head?_tokens_of_isElseIf {line : BranchLine} (elseIf : line.isElseIf = true) :
    (tokens line.rest).head? = some "if".toList := by
  obtain ⟨-, next⟩ := Bool.and_eq_true_iff.1 elseIf
  rw [← List.take_append_drop 2 (tokens line.rest), beq_iff_eq.1 next]
  rfl

/-- Without a brace, the line is recognised as control flow by a bracket behind the keyword. -/
theorem isControlFlow_text_iff {line : BranchLine} (free : line.closing = none) :
    isControlFlow line.text = true ↔
      (tokens line.rest).head? = some ['('] ∨ line.isElseIf = true := by
  have whole : tokens line.text = line.word.toList :: tokens line.rest := by
    rw [tokens_text, free]
    rfl
  have conditions : ∀ word ∈ branchWords, word ∈ conditionWords ∧ word ∉ statementWords ∧
      word.toList ≠ ['\x7d'] ∧ word.toList ≠ "delete".toList := by
    decide
  obtain ⟨condition, noStatement, noBrace, noDeletion⟩ := conditions line.word line.mem
  constructor
  · intro found
    have steers := steers_of_isControlFlow found
    rw [whole] at steers
    generalize same : line.word.toList :: tokens line.rest = all at steers
    cases steers with
    | condition opens =>
        cases opens with
        | word => 
            rw [(List.cons.inj same).2]
            exact .inl rfl
        | elseIf =>
            obtain ⟨word, rest⟩ := List.cons.inj same
            refine .inr (Bool.and_eq_true_iff.2 ⟨?_, ?_⟩)
            · exact beq_iff_eq.2 (String.toList_inj.1 word)
            · rw [rest]
              rfl
    | behindBrace => exact absurd (List.cons.inj same).1 noBrace
    | statement mem =>
        rw [← String.toList_inj.1 (List.cons.inj same).1] at mem
        exact absurd mem noStatement
    | deletion => exact absurd (List.cons.inj same).1 noDeletion
  · intro next
    refine isControlFlow_of_opensCondition ?_
    rw [whole]
    rcases next with bracket | elseIf
    · obtain ⟨rest, behind⟩ := List.head?_eq_some_iff.1 bracket
      rw [behind]
      exact .word condition rest
    · obtain ⟨word, next⟩ := Bool.and_eq_true_iff.1 elseIf
      rw [← List.take_append_drop 2 (tokens line.rest), beq_iff_eq.1 next, beq_iff_eq.1 word]
      exact .elseIf _

/-! ## Scripts -/

/-- Such a line can only be a method. -/
theorem shownForm_text (line : BranchLine) : HeaderTable.shownForm line.text = .method := by
  have apart : ∀ token ∈ starts, token ∉ HeaderTable.scriptModifiers.map String.toList ∧
      token ≠ "function".toList ∧ token ∉ HeaderTable.binders.map String.toList := by
    decide
  obtain ⟨token, mem, first⟩ := line.exists_head?_tokens
  obtain ⟨rest, whole⟩ := List.head?_eq_some_iff.1 first
  obtain ⟨noModifier, noKeyword, noBinder⟩ := apart token mem
  rw [HeaderTable.shownForm, stem_of_tokens whole noModifier]
  exact HeaderTable.formOfTokens_of_not_keyword noKeyword noBinder rest

/-- The tokens before the name of a method. -/
abbrev modifierTokens : List Text :=
  ['*'] :: HeaderTable.scriptModifiers.map String.toList

theorem not_mem_modifierTokens_of_mem_starts : ∀ token ∈ starts, token ∉ modifierTokens := by
  decide

theorem opened_modifiers {list : List String} (among : list ⊆ HeaderTable.scriptModifiers) :
    Opened modifierTokens (oneKeyword list) :=
  opened_oneKeyword
    (fun word mem => HeaderTable.isWordRow_of_mem_scriptModifiers word (among mem))
    (List.subset_cons_of_subset _ (List.map_subset _ among))

theorem accepts_isWord {c : Char} (word : isWord c = true) : isBlank c = false ∧ c ≠ '\x7d' := by
  refine ⟨not_isBlank_of_isWord word, ?_⟩
  rintro rfl
  exact absurd word (by decide)

theorem awaits_modifierPieces : ∀ piece ∈ MethodHeader.modifierPieces, Awaits modifierTokens piece := by
  have one {word : String} (mem : word ∈ HeaderTable.scriptModifiers) :
      Opened modifierTokens (keyword word) :=
    opened_modifiers (List.cons_subset.2 ⟨mem, List.nil_subset _⟩)
  simp only [MethodHeader.modifierPieces, List.forall_mem_cons]
  exact ⟨(one (by decide)).awaits_optional, (one (by decide)).awaits_optional,
    ((one (by decide)).either (one (by decide))).awaits_optional,
    (opened_sign rfl (by decide) (by decide) (List.mem_cons_self ..)).awaits_optional,
    awaits_blanks, List.forall_mem_nil _⟩

theorem opened_bracket_row (rest : List Pattern) :
    Opened [['(']] (row (blanks :: enclosed "(" "()" ")" :: rest)) :=
  .row_of_awaits awaits_blanks
    ((opened_enclosed rfl (by decide) (by decide) (List.mem_cons_self ..)).row_cons rest)

/-- JavaScript only has a method where a bracket is behind the keyword, and this is control flow. -/
theorem headerForm?_js_text (line : BranchLine) : Language.js.headerForm? line.text = none := by
  have only : ∀ header ∈ Language.js.headers, header.2.search line.text = true →
      header = (.method, row (Pattern.indent ::
        (MethodHeader.modifierPieces ++ MethodHeader.signaturePieces))) := by
    intro header mem found
    have form := HeaderTable.shownForm_of_mem_js mem found
    rw [shownForm_text] at form
    simp only [Language.headers, HeaderTable.js, List.mem_cons, List.not_mem_nil, or_false] at mem
    rcases mem with rfl | rfl | rfl | rfl
    · cases form
    · cases form
    · cases form
    · rfl
  rw [Language.headerForm?_eq_of_only MethodHeader.method_mem_js only]
  refine if_neg fun both => ?_
  obtain ⟨noControl, found⟩ := Bool.and_eq_true_iff.1 both
  have back : List.any [blanks, enclosed "(" "()" ")", blanks, exactly "\x7b"] looksBack = false := by
    decide
  have opened := opened_bracket_row [blanks, exactly "\x7b"]
  have empty : Covers (row MethodHeader.modifierPieces) [] :=
    .row_skip covers_optional_nil (.row_skip covers_optional_nil (.row_skip covers_optional_nil
      (.row_skip covers_optional_nil covers_blanks_nil.row_singleton)))
  obtain ⟨free, begun⟩ := (@search_text_iff _ _ _ isWord line awaits_modifierPieces
    not_mem_modifierTokens_of_mem_starts empty (fun _ word => word) (fun _ => accepts_isWord) back
    (fun _ _ => opened.beforeWord (by decide))).1 found
  rw [begins_many_one_of_stop back line.stop] at begun
  obtain ⟨token, mem, next⟩ := opened.exists_head?_of_begins back begun
  obtain rfl := List.mem_singleton.1 mem
  have control := (isControlFlow_text_iff free).2 (.inl next)
  rw [control] at noControl
  cases noControl

/-- What stands before the name of a method in TypeScript. -/
def typedModifierPieces : List Pattern :=
  [many (oneKeyword ["public", "private", "protected", "static", "readonly", "abstract",
      "override", "async"]),
    optional (either (keyword "get") (keyword "set")), mark "*", blanks]

/-- What follows the type parameters of a method in TypeScript. -/
def resultPieces : List Pattern :=
  [blanks, enclosed "(" "()" ")", blanks,
    optional (row [exactly ":", oneOrMore (except "\x7b;")]), exactly "\x7b"]

/-- Type parameters and what follows them. -/
def typedSignature : List Pattern :=
  blanks :: wide "<" ">" :: resultPieces

theorem awaits_typedModifierPieces : ∀ piece ∈ typedModifierPieces, Awaits modifierTokens piece := by
  have one {word : String} (mem : word ∈ HeaderTable.scriptModifiers) :
      Opened modifierTokens (keyword word) :=
    opened_modifiers (List.cons_subset.2 ⟨mem, List.nil_subset _⟩)
  simp only [typedModifierPieces, List.forall_mem_cons]
  exact ⟨(opened_modifiers (by decide)).awaits_many,
    ((one (by decide)).either (one (by decide))).awaits_optional,
    (opened_sign rfl (by decide) (by decide) (List.mem_cons_self ..)).awaits_optional,
    awaits_blanks, List.forall_mem_nil _⟩

theorem opened_resultPieces : Opened [['(']] (row resultPieces) :=
  opened_bracket_row _

theorem opened_typedSignature : Opened [['<']] (row typedSignature) :=
  .row_of_awaits awaits_blanks
    ((opened_enclosed rfl (by decide) (by decide) (List.mem_cons_self ..)).row_cons _)

/-- Behind a keyword stand type parameters or the brackets of parameters. -/
theorem spans_untyped_or_typed {a b : Place}
    (spans : Spans (row (blanks :: optional (wide "<" ">") :: resultPieces)) a b) :
    Spans (row typedSignature) a b ∨ Spans (row (blanks :: resultPieces)) a b := by
  obtain ⟨m, before, spans⟩ := spans_row_cons.1 spans
  obtain ⟨n, typed, after⟩ := spans_row_cons.1 spans
  rcases typed with typed | rfl
  · exact .inl (spans_row_cons.2 ⟨m, before, spans_row_cons.2 ⟨n, typed, after⟩⟩)
  · exact .inr (spans_row_cons.2 ⟨n, before, after⟩)

/-- TypeScript has a method where type parameters are behind the keyword. -/
theorem headerForm?_ts_text (line : BranchLine) :
    Language.ts.headerForm? line.text =
      if line.closing.isNone && begins typedSignature line.rest then some .method else none := by
  have only : ∀ header ∈ Language.ts.headers, header.2.search line.text = true →
      header = (.method, row (Pattern.indent :: (typedModifierPieces ++
        Pattern.name :: blanks :: optional (wide "<" ">") :: resultPieces))) := by
    intro header mem found
    have form := HeaderTable.shownForm_of_mem_ts mem found
    rw [shownForm_text] at form
    simp only [Language.headers, HeaderTable.ts, List.mem_cons, List.not_mem_nil, or_false] at mem
    rcases mem with rfl | rfl | rfl | rfl
    · cases form
    · cases form
    · cases form
    · rfl
  have method : (Form.method, row (Pattern.indent :: (typedModifierPieces ++
      Pattern.name :: blanks :: optional (wide "<" ">") :: resultPieces))) ∈
        Language.ts.headers := by
    simp [Language.headers, HeaderTable.ts, typedModifierPieces, resultPieces]
  have optionalTypes : Within (wide "<" ">") (optional (wide "<" ">")) := fun _ _ => Or.inl
  have aheadTyped : typedSignature.any looksBack = false := by decide
  have ahead : List.any (blanks :: optional (wide "<" ">") :: resultPieces) looksBack = false := by
    decide
  have untyped : Opened [['(']] (row (blanks :: resultPieces)) :=
    .row_of_awaits awaits_blanks opened_resultPieces
  have empty : Covers (row typedModifierPieces) [] :=
    .row_skip covers_many_nil (.row_skip covers_optional_nil
      (.row_skip covers_optional_nil covers_blanks_nil.row_singleton))
  have found := @search_text_iff _ _ _ isWord line awaits_typedModifierPieces
    not_mem_modifierTokens_of_mem_starts empty (fun _ word => word) (fun _ => accepts_isWord) ahead fun _ _ spans =>
      (spans_untyped_or_typed spans).elim (opened_typedSignature.beforeWord (by decide))
        (untyped.beforeWord (by decide))
  rw [begins_many_one_of_stop ahead line.stop] at found
  rw [Language.headerForm?_eq_of_only method only]
  congr 1
  rw [eq_iff_iff, Bool.and_eq_true_iff, Bool.and_eq_true_iff, Option.isNone_iff_eq_none,
    Bool.not_eq_true']
  constructor
  · rintro ⟨noControl, method⟩
    obtain ⟨free, begun⟩ := found.1 method
    obtain ⟨b, spans⟩ := (begins_iff ahead (a := ⟨none, _⟩)).1 begun
    rcases spans_untyped_or_typed spans with typed | bracket
    · exact ⟨free, (begins_iff aheadTyped (a := ⟨none, _⟩)).2 ⟨b, typed⟩⟩
    · obtain ⟨token, mem, next⟩ := untyped bracket
      obtain rfl := List.mem_singleton.1 mem
      have control := (isControlFlow_text_iff free).2 (.inl next)
      rw [control] at noControl
      cases noControl
  · rintro ⟨free, begun⟩
    obtain ⟨token, mem, next⟩ := opened_typedSignature.exists_head?_of_begins aheadTyped begun
    obtain rfl := List.mem_singleton.1 mem
    refine ⟨Bool.eq_false_iff.2 fun control => ?_, found.2 ⟨free, ?_⟩⟩
    · rcases (isControlFlow_text_iff free).1 control with bracket | elseIf
      · rw [next] at bracket
        exact absurd bracket (by decide)
      · rw [head?_tokens_of_isElseIf elseIf] at next
        exact absurd next (by decide)
    · obtain ⟨b, spans⟩ := (begins_iff aheadTyped (a := ⟨none, _⟩)).1 begun
      exact (begins_iff ahead (a := ⟨none, _⟩)).2
        ⟨b, Within.row_cons (.refl blanks) (.row_cons optionalTypes (.refl _)) spans⟩

/-! ## Java -/

/-- What stands before the result type of a method. -/
def leadingPieces : List Pattern :=
  [HeaderTable.javaAnnotations, HeaderTable.javaParameters]

/-- What follows the name of a type within the type. -/
def typePieces : List Pattern :=
  [optional (enclosed "<" ";()\x7b\x7d" ">"), many (exactly "[]")]

/-- What follows the result type of a method. -/
def parameterPieces : List Pattern :=
  [gap, Pattern.name, blanks, enclosed "(" ";" ")", blanks,
    optional (row [exactly "throws", gap, oneOrMore (one fun c =>
      isWord c || c == '.' || c == ',' || isBlank c)]),
    mark "\x7b", blanks, textEnd]

/-- What follows the name of a type in the header of a method. -/
def memberPieces : List Pattern :=
  typePieces ++ parameterPieces

/-- The rest of a type, the name of a method and its parameters. -/
def memberSignature : List Pattern :=
  many (wordOr ".$") :: memberPieces

theorem awaits_leadingPieces : ∀ piece ∈ leadingPieces, Awaits [['@'], ['<']] piece := by
  have sign : Opened [['@'], ['<']] (exactly "@") :=
    opened_sign rfl (by decide) (by decide) (by decide)
  have parameters : Opened [['@'], ['<']] (exactly "<") :=
    opened_sign rfl (by decide) (by decide) (by decide)
  simp only [leadingPieces, List.forall_mem_cons]
  exact ⟨(sign.row_cons _).awaits_many, (parameters.row_cons _).awaits_optional,
    List.forall_mem_nil _⟩

/-- The characters of the name of a type. -/
def isTypeCharacter (c : Char) : Bool :=
  isWord c || ".$".toList.contains c

theorem ne_of_isTypeCharacter {c : Char} (inType : isTypeCharacter c = true) :
    isBlank c = false ∧ c ≠ '\x7d' ∧ c ≠ '(' := by
  rcases Bool.or_eq_true_iff.1 inType with word | sign
  · refine ⟨not_isBlank_of_isWord word, ?_, ?_⟩
    · rintro rfl
      exact absurd word (by decide)
    · rintro rfl
      exact absurd word (by decide)
  · have apart : ∀ c ∈ ".$".toList, isBlank c = false ∧ c ≠ '\x7d' ∧ c ≠ '(' :=
      List.all_iff_forall_prop.1 (by decide)
    exact apart c (List.contains_iff_mem.1 sign)

theorem opened_declaration (rest : List Pattern) :
    Opened (['@'] :: JavaHead.modifiers.map String.toList)
      (row (HeaderTable.javaAnnotations :: oneOrMore (oneKeyword JavaHead.modifiers) :: rest)) := by
  have sign : Opened (['@'] :: JavaHead.modifiers.map String.toList) (exactly "@") :=
    opened_sign rfl (by decide) (by decide) (List.mem_cons_self ..)
  have rows : ∀ word ∈ JavaHead.modifiers, IsWordRow word.toList := by decide
  have modifiers : Opened (['@'] :: JavaHead.modifiers.map String.toList)
      (oneOrMore (oneKeyword JavaHead.modifiers)) := by
    rintro a b ⟨m, head, -⟩
    exact opened_oneKeyword rows (List.subset_cons_self ..) head
  exact .row_of_awaits (sign.row_cons _).awaits_many (modifiers.row_cons rest)

/-- Type arguments or array brackets are next, or a gap and the name of the method. -/
theorem next_of_spans_memberPieces {a b : Place} (spans : Spans (row memberPieces) a b) :
    (∃ token ∈ [['<'], ['[']], (tokens a.rest).head? = some token) ∨
      ∃ m n, Spans gap a m ∧ Spans Pattern.name m n := by
  have arguments : Opened [['<'], ['[']] (enclosed "<" ";()\x7b\x7d" ">") :=
    opened_enclosed rfl (by decide) (by decide) (by decide)
  have brackets : Opened [['<'], ['[']] (exactly "[]") :=
    opened_sign rfl (by decide) (by decide) (by decide)
  obtain ⟨m, typed, spans⟩ := spans_row_cons.1 spans
  obtain ⟨n, array, spans⟩ := spans_row_cons.1 spans
  rcases typed with typed | rfl
  · exact .inl (arguments typed)
  · cases array with
    | more head _ => exact .inl (brackets head)
    | stop =>
        obtain ⟨p, between, spans⟩ := spans_row_cons.1 spans
        obtain ⟨q, named, -⟩ := spans_row_cons.1 spans
        exact .inr ⟨p, q, between, named⟩

theorem beforeWord_of_spans_memberPieces {a b : Place} (spans : Spans (row memberPieces) a b) :
    a.beforeWord = false := by
  rcases next_of_spans_memberPieces spans with ⟨token, mem, next⟩ | ⟨m, n, between, -⟩
  · obtain ⟨rest, whole⟩ := List.head?_eq_some_iff.1 next
    have signs : ∀ token ∈ [['<'], ['[']], token.head?.any isWord = false := by decide
    exact not_isWord_head_of_tokens whole (signs token mem)
  · exact (tokens_of_spans_gap between).2

/-- No bracket of parameters is next. -/
theorem not_bracket_of_begins {rest : Text} (begun : begins memberSignature rest = true) :
    (tokens rest).head? ≠ some ['('] := by
  have ahead : memberPieces.any looksBack = false := by decide
  obtain ⟨stretch, behind, rfl, accepted, member⟩ :=
    (@begins_many_one_iff memberPieces ahead _ rest).1 begun
  intro bracket
  cases stretch with
  | nil =>
      obtain ⟨b, spans⟩ := (begins_iff ahead (a := ⟨none, behind⟩)).1 member
      rcases next_of_spans_memberPieces spans with ⟨token, mem, next⟩ | ⟨m, n, between, named⟩
      · rw [List.nil_append, next] at bracket
        obtain rfl := Option.some.inj bracket
        exact absurd mem (by decide)
      · obtain ⟨token, more, whole, word⟩ := exists_tokens_of_spans_name named
        rw [List.nil_append, (tokens_of_spans_gap between).1, whole] at bracket
        obtain rfl : token = ['('] := Option.some.inj bracket
        exact absurd word (by decide)
  | cons c stretch =>
      have inType := ne_of_isTypeCharacter (accepted c (List.mem_cons_self ..))
      have first := head?_trimStart_of_tokens (by decide) bracket
      have start : trimStart (c :: stretch ++ behind) = c :: stretch ++ behind :=
        trimStart_of_head? inType.1
      rw [start] at first
      exact inType.2.2 (Option.some.inj first)

/-- Java has a method where the keyword can be taken for the name of a type, unless it is an
`else` before a condition. -/
theorem headerForm?_java_text (line : BranchLine) :
    Language.java.headerForm? line.text =
      if line.closing.isNone && begins memberSignature line.rest && !line.isElseIf then some .method
      else none := by
  have apart : ∀ token ∈ starts, token ∉ ['@'] :: JavaHead.modifiers.map String.toList ∧
      token ∉ [['@'], ['<']] := by
    decide
  have ahead : memberPieces.any looksBack = false := by decide
  have empty : Covers (row leadingPieces) [] :=
    .row_skip covers_many_nil covers_optional_nil.row_singleton
  have flat : (row (Pattern.indent :: (leadingPieces ++ HeaderTable.javaType ::
      parameterPieces))).search line.text =
        (row (Pattern.indent :: (leadingPieces ++ oneOrMore (wordOr ".$") ::
          memberPieces))).search line.text :=
    search_row_row (Pattern.indent :: leadingPieces) (oneOrMore (wordOr ".$") :: typePieces)
      parameterPieces line.text
  have found := @search_text_iff _ _ _ isTypeCharacter line awaits_leadingPieces
    (fun token mem => (apart token mem).2) empty (fun c word => by rw [isTypeCharacter, word]; rfl)
    (fun c inType => (ne_of_isTypeCharacter inType).imp_right And.left) ahead
    fun _ _ => beforeWord_of_spans_memberPieces
  have only : ∀ header ∈ Language.java.headers, header.2.search line.text = true →
      header = (.method, row (Pattern.indent :: (leadingPieces ++ HeaderTable.javaType ::
        parameterPieces))) := by
    intro header mem found
    simp only [Language.headers, HeaderTable.java, List.mem_cons, List.not_mem_nil, or_false] at mem
    rcases mem with rfl | rfl
    · exact absurd found (Bool.eq_false_iff.1
        (line.not_search_of_opened (opened_declaration _) fun token mem => (apart token mem).1))
    · rfl
  have method : (Form.method, row (Pattern.indent :: (leadingPieces ++ HeaderTable.javaType ::
      parameterPieces))) ∈ Language.java.headers := by
    simp [Language.headers, HeaderTable.java, leadingPieces, parameterPieces]
  rw [Language.headerForm?_eq_of_only method only, flat]
  congr 1
  rw [eq_iff_iff, Bool.and_eq_true_iff, Bool.and_eq_true_iff, Bool.and_eq_true_iff,
    Option.isNone_iff_eq_none, Bool.not_eq_true', Bool.not_eq_true']
  constructor
  · rintro ⟨noControl, method⟩
    obtain ⟨free, begun⟩ := found.1 method
    refine ⟨⟨free, begun⟩, Bool.eq_false_iff.2 fun elseIf => ?_⟩
    rw [(isControlFlow_text_iff free).2 (.inr elseIf)] at noControl
    cases noControl
  · rintro ⟨⟨free, begun⟩, noElseIf⟩
    refine ⟨Bool.eq_false_iff.2 fun control => ?_, found.2 ⟨free, begun⟩⟩
    rcases (isControlFlow_text_iff free).1 control with bracket | elseIf
    · exact not_bracket_of_begins begun bracket
    · exact Bool.eq_false_iff.1 noElseIf elseIf

end BranchLine

/-! ## All languages with braces -/

/-- A line that begins with a keyword of control flow is never a header in JavaScript. It is a
method in TypeScript exactly where the keyword is the name of a method with type parameters, and in
Java exactly where it begins the result type of one. -/
theorem headerForm?_branchLine (line : BranchLine) :
    Language.js.headerForm? line.text = none ∧
      Language.ts.headerForm? line.text =
        (if line.closing.isNone && begins BranchLine.typedSignature line.rest then some .method
        else none) ∧
      Language.java.headerForm? line.text =
        (if line.closing.isNone && begins BranchLine.memberSignature line.rest && !line.isElseIf
        then some .method else none) :=
  ⟨line.headerForm?_js_text, line.headerForm?_ts_text, line.headerForm?_java_text⟩

/-- A branch that takes a lock before it goes on. -/
def lockedBranch : BranchLine where
  indent := .none
  closing := none
  word := "else"
  rest := " synchronized (lock) \x7b".toList
  mem := by decide
  stop := rfl

/-- A branch that is taken for a method. -/
theorem headerForm?_lockedBranch :
    lockedBranch.text = "else synchronized (lock) \x7b".toList ∧
      Language.java.headerForm? lockedBranch.text = some .method := by
  have begun : begins BranchLine.memberSignature lockedBranch.rest = true := by decide
  refine ⟨by decide, ?_⟩
  rw [lockedBranch.headerForm?_java_text, begun]
  decide

end PatchSurvey
