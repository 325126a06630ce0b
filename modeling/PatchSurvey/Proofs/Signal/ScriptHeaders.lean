import Mathlib.Data.List.Sublists
import PatchSurvey.Proofs.Pattern.Inclusion
import PatchSurvey.Proofs.Pattern.Tokens
import PatchSurvey.Signal.Find

/-! # Function headers of scripts

Every header of JavaScript is one of TypeScript. The first two tokens behind the
modifiers tell the forms of TypeScript apart, so that a wider shape of another form
never comes first. -/

namespace PatchSurvey

open Pattern Text

namespace HeaderTable

/-! ## The form that the tokens show -/

/-- Words that may stand before a header. -/
def scriptModifiers : List String :=
  ["export", "default", "declare", "public", "private", "protected", "static", "readonly",
    "abstract", "override", "async", "get", "set"]

/-- The keywords that bind a name. -/
def binders : List String :=
  ["const", "let", "var"]

/-- The token begins type parameters or parameters. -/
def Opens (token : Text) : Prop :=
  token = ['('] ∨ token = ['<']

instance (token : Text) : Decidable (Opens token) :=
  inferInstanceAs (Decidable (_ ∨ _))

/-- The form of a header with these tokens behind its modifiers. -/
def formOfTokens : List Text → Form
  | first :: second :: _ =>
      if Opens second then .method
      else if first = "function".toList then .declaration
      else if (binders.map String.toList).contains first then .expression
      else .method
  | _ => .method

/-- The form that a line shows if it is a header. -/
def shownForm (line : Text) : Form :=
  formOfTokens (stem scriptModifiers line)

theorem isWordRow_of_mem_scriptModifiers : ∀ word ∈ scriptModifiers, IsWordRow word.toList := by
  decide

theorem isWordRow_of_mem_binders : ∀ word ∈ binders, IsWordRow word.toList := by
  decide

theorem not_opens_of_isWord {token : Text} (word : token.head?.any isWord = true) :
    ¬ Opens token := by
  rintro (rfl | rfl)
  · exact absurd word (by decide)
  · exact absurd word (by decide)

theorem not_isWord_of_opens {token : Text} (opens : Opens token) :
    token.head?.any isWord = false :=
  Bool.eq_false_iff.2 fun word => not_opens_of_isWord word opens

/-- Only a keyword shows another form than a method. -/
theorem formOfTokens_of_not_keyword {first : Text} (other : first ≠ "function".toList)
    (free : first ∉ binders.map String.toList) (rest : List Text) :
    formOfTokens (first :: rest) = .method := by
  cases rest with
  | nil => rfl
  | cons second rest =>
      rw [formOfTokens, if_neg other, if_neg (mt List.contains_iff_mem.1 free), ite_self]

variable {a b : Place} {rest : List Pattern}

/-- A word or a star behind the keyword shows a declaration. -/
theorem shownForm_of_spans_function
    (spans : Spans (row (exactly "function" :: wordEdge :: blanks :: mark "*" :: blanks :: name ::
      rest)) a b) : shownForm a.rest = .declaration := by
  simp only [spans_row_cons] at spans
  obtain ⟨m, word, k, edge, n, before, p, star, q, between, r, named, -⟩ := spans
  obtain ⟨rfl, next⟩ := tokens_of_reads_word_edge (by decide) (spans_exactly_iff.1 word) edge
  have second : ∃ token more, tokens k.rest = token :: more ∧ ¬ Opens token := by
    rw [keeps_tokens_blanks before]
    rcases star with star | rfl
    · have sign := tokens_of_reads_sign (by decide) (by decide) (spans_exactly_iff.1 star)
      exact ⟨_, _, sign, by decide⟩
    · obtain ⟨token, more, begun, letter⟩ := exists_tokens_of_spans_name named
      exact ⟨token, more, (keeps_tokens_blanks between).trans begun, not_opens_of_isWord letter⟩
  obtain ⟨token, more, behind, closed⟩ := second
  rw [shownForm, stem_of_tokens next (by decide), behind, formOfTokens, if_neg closed, if_pos rfl]

/-- A keyword before a name shows an expression. -/
theorem shownForm_of_spans_binding (spans : Spans binding a b) :
    shownForm a.rest = .expression := by
  simp only [binding, spans_row_cons] at spans
  obtain ⟨m, start, n, exported, p, keyword, q, named, -⟩ := spans
  obtain ⟨word, mem, next⟩ := exists_tokens_of_spans_oneKeyword isWordRow_of_mem_binders keyword
  obtain ⟨token, more, begun, letter⟩ := exists_tokens_of_spans_name named
  have passed : stem scriptModifiers a.rest = stem scriptModifiers n.rest :=
    (keeps_stem_indent start).trans
      (keeps_stem_modifier isWordRow_of_mem_scriptModifiers (by decide) exported)
  have apart : ∀ word ∈ binders, word.toList ∉ scriptModifiers.map String.toList ∧
      word.toList ≠ "function".toList := by
    decide
  obtain ⟨other, unlike⟩ := apart word mem
  rw [shownForm, passed, stem_of_tokens next other, begun, formOfTokens,
    if_neg (not_opens_of_isWord letter), if_neg unlike,
    if_pos (List.contains_iff_mem.2 (List.mem_map_of_mem mem))]

/-- Before parameters, with or without type parameters, stands a bracket. -/
theorem exists_opens_of_spans
    (spans : Spans (row (blanks :: optional (wide "<" ">") :: blanks :: enclosed "(" "()" ")" ::
      rest)) a b) : ∃ token more, tokens a.rest = token :: more ∧ Opens token := by
  have bracket {left stops right : String} {c : Char} {a b : Place} (opening : left.toList = [c])
      (seen : isBlank c = false) (other : isWord c = false)
      (spans : Spans (enclosed left stops right) a b) :
      ∃ more, tokens a.rest = [c] :: more := by
    obtain ⟨m, sign, -⟩ := spans_row_cons.1 spans
    have reads := spans_exactly_iff.1 sign
    rw [opening] at reads
    exact ⟨_, tokens_of_reads_sign seen other reads⟩
  simp only [spans_row_cons] at spans
  obtain ⟨m, before, n, types, p, between, q, parameters, -⟩ := spans
  rw [keeps_tokens_blanks before]
  rcases types with types | rfl
  · obtain ⟨more, begun⟩ := bracket rfl (by decide) (by decide) types
    exact ⟨['<'], more, begun, .inr rfl⟩
  · obtain ⟨more, begun⟩ := bracket rfl (by decide) (by decide) parameters
    exact ⟨['('], more, (keeps_tokens_blanks between).trans begun, .inl rfl⟩

/-- A bracket behind a name, or behind the modifiers alone, shows a method. -/
theorem shownForm_of_spans_method
    (spans : Spans (row (mark "*" :: blanks :: name :: blanks :: optional (wide "<" ">") ::
      blanks :: enclosed "(" "()" ")" :: rest)) a b) : shownForm a.rest = .method := by
  rw [spans_row_cons] at spans
  obtain ⟨m, star | rfl, spans⟩ := spans
  · have sign := tokens_of_reads_sign (by decide) (by decide) (spans_exactly_iff.1 star)
    rw [shownForm, stem_of_tokens sign (by decide)]
    exact formOfTokens_of_not_keyword (by decide) (by decide) _
  · rw [spans_row_cons] at spans
    obtain ⟨n, before, spans⟩ := spans
    rw [spans_row_cons] at spans
    obtain ⟨p, named, spans⟩ := spans
    obtain ⟨token, more, begun, opens⟩ := exists_opens_of_spans spans
    have stop := not_isWord_head_of_tokens begun (not_isWord_of_opens opens)
    obtain ⟨word, -, next⟩ := exists_word_of_spans_name named stop
    rw [begun] at next
    have bracket : token ∉ scriptModifiers.map String.toList ∧ token ≠ "function".toList ∧
        token ∉ binders.map String.toList := by
      rcases opens with rfl | rfl <;> decide
    rw [shownForm, keeps_stem_of_keeps_tokens keeps_tokens_blanks before]
    -- the name of a method may itself be one of the modifiers
    by_cases modifies : word ∈ scriptModifiers.map String.toList
    · rw [stem, next, List.dropWhile_cons, if_pos (List.contains_iff_mem.2 modifies),
        List.dropWhile_cons, if_neg (mt List.contains_iff_mem.1 bracket.1)]
      exact formOfTokens_of_not_keyword bracket.2.1 bracket.2.2 more
    · rw [stem_of_tokens next modifies, formOfTokens, if_pos opens]

/-! ## The headers of TypeScript -/

/-- A header with modifiers at its start has the form that its other pieces show. -/
theorem shownForm_of_search {front back : List Pattern} {form : Form} {line : Text}
    (passed : ∀ piece ∈ front, Keeps (stem scriptModifiers) piece)
    (shows : ∀ ⦃a b : Place⦄, Spans (row back) a b → shownForm a.rest = form)
    (found : (row (indent :: (front ++ back))).search line = true) : shownForm line = form := by
  obtain ⟨b, spans⟩ := (anchored_indent.row_cons _).exists_of_search found
  obtain ⟨m, start, spans⟩ := spans_row_cons.1 spans
  obtain ⟨n, modified, spans⟩ := spans_row_append.1 spans
  rw [← shows spans, shownForm, shownForm]
  congr 1
  exact (keeps_stem_indent start).trans (Keeps.row passed modified)

theorem shownForm_of_search_binding {line : Text}
    (found : (row (binding :: rest)).search line = true) : shownForm line = .expression := by
  have anchored : Anchored binding := anchored_indent.row_cons _
  obtain ⟨b, spans⟩ := (anchored.row_cons rest).exists_of_search found
  obtain ⟨m, head, -⟩ := spans_row_cons.1 spans
  exact shownForm_of_spans_binding head

/-- A header of TypeScript has the form that its tokens show. -/
theorem shownForm_of_mem_ts {header : Form × Pattern} (mem : header ∈ ts) {line : Text}
    (found : header.2.search line = true) : shownForm line = header.1 := by
  have one {word : String} (mem : word ∈ scriptModifiers) :
      Keeps (stem scriptModifiers) (keyword word) :=
    keeps_stem_keyword isWordRow_of_mem_scriptModifiers mem
  simp only [ts, List.mem_cons, List.not_mem_nil, or_false] at mem
  rcases mem with rfl | rfl | rfl | rfl
  · have passed : ∀ piece ∈ [modifier "export", modifier "default", modifier "declare",
        modifier "async"], Keeps (stem scriptModifiers) piece := by
      simp only [List.forall_mem_cons]
      exact ⟨(one (by decide)).optional, (one (by decide)).optional, (one (by decide)).optional,
        (one (by decide)).optional, List.forall_mem_nil _⟩
    exact shownForm_of_search passed (fun _ _ => shownForm_of_spans_function) found
  · exact shownForm_of_search_binding found
  · exact shownForm_of_search_binding found
  · have passed : ∀ piece ∈ [many (oneKeyword ["public", "private", "protected", "static",
        "readonly", "abstract", "override", "async"]),
        optional (either (keyword "get") (keyword "set"))],
        Keeps (stem scriptModifiers) piece := by
      simp only [List.forall_mem_cons]
      exact ⟨(keeps_stem_oneKeyword isWordRow_of_mem_scriptModifiers (by decide)).many,
        ((one (by decide)).either (one (by decide))).optional, List.forall_mem_nil _⟩
    exact shownForm_of_search passed (fun _ _ => shownForm_of_spans_method) found

/-! ## Every header of JavaScript is one of TypeScript -/

/-- The tables list the same forms, and each shape of the first lies within that of the second. -/
def Widened (narrow wide : HeaderTable) : Prop :=
  List.Forall₂ (fun first second : Form × Pattern =>
    first.1 = second.1 ∧ Within first.2 second.2) narrow wide

theorem Widened.exists_mem {narrow wide : HeaderTable} (widened : Widened narrow wide)
    {header : Form × Pattern} (mem : header ∈ narrow) :
    ∃ wider ∈ wide, header.1 = wider.1 ∧ Within header.2 wider.2 := by
  induction widened with
  | nil => cases mem
  | cons first _ ih =>
      rcases List.mem_cons.1 mem with rfl | mem
      · exact ⟨_, List.mem_cons_self .., first⟩
      · obtain ⟨wider, among, others⟩ := ih mem
        exact ⟨wider, List.mem_cons_of_mem _ among, others⟩

/-- Header by header, JavaScript lies within TypeScript. -/
theorem widened_js_ts : Widened js ts := by
  have absent {body : Pattern} := Within.nothing_optional body
  refine .cons ⟨rfl, ?_⟩ (.cons ⟨rfl, ?_⟩ (.cons ⟨rfl, ?_⟩ (.cons ⟨rfl, ?_⟩ .nil)))
  · refine .row_append [indent, modifier "export", modifier "default"] (.row_skip absent ?_)
    refine .row_append [modifier "async", exactly "function", wordEdge, blanks, mark "*", blanks,
      name, blanks] (.row_skip absent ?_)
    exact .row_skip (.nothing_many blank) (.refl _)
  · refine .row_append [binding] (.row_skip absent ?_)
    refine .row_append [exactly "=", blanks, optional (row [exactly "async", blanks])]
      (.row_skip absent ?_)
    refine .row_append [either (enclosed "(" ")" ")") name, blanks] (.row_skip absent ?_)
    exact .refl _
  · exact .row_append [binding] (.row_skip absent (.refl _))
  · refine .row_append [indent] (.row_many (.optional_many (.keyword (by decide))) ?_)
    refine .row_many (.optional_many (.keyword (by decide))) (.row_skip (.nothing_many _) ?_)
    refine .row_append [optional (either (keyword "get") (keyword "set")), mark "*", blanks, name,
      blanks] (.row_skip absent (.row_skip (.nothing_many blank) ?_))
    exact .row_append [enclosed "(" "()" ")", blanks] (.row_skip absent (.refl _))

/-- In a table whose shapes in the line all show one form, a shape in the line decides. -/
theorem find?_of_unique {table : HeaderTable} {line : Text} {shown : Form}
    (unique : ∀ header ∈ table, header.2.search line = true → shown = header.1)
    {header : Form × Pattern} (mem : header ∈ table) (found : header.2.search line = true) :
    (table.find? (·.2.search line)).map (·.1) = some header.1 := by
  have some : (table.find? (·.2.search line)).isSome = true :=
    List.find?_isSome.2 ⟨header, mem, found⟩
  obtain ⟨chosen, first⟩ := Option.isSome_iff_exists.1 some
  have covers : chosen.2.search line = true :=
    List.find?_some (p := fun header : Form × Pattern => header.2.search line) first
  rw [first, Option.map_some, ← unique chosen (List.mem_of_find?_eq_some first) covers,
    unique header mem found]

/-- A header of JavaScript has the form that its tokens show. -/
theorem shownForm_of_mem_js {header : Form × Pattern} (mem : header ∈ js) {line : Text}
    (found : header.2.search line = true) : shownForm line = header.1 := by
  obtain ⟨wider, among, same, within⟩ := widened_js_ts.exists_mem mem
  rw [same, shownForm_of_mem_ts among (within.search found)]

/-- A form that is found in a table is found in a wider one too, if the shapes there that cover the
line all have one form. -/
theorem Widened.find? {narrow wide : HeaderTable} (widened : Widened narrow wide) {line : Text}
    {form shown : Form}
    (unique : ∀ header ∈ wide, header.2.search line = true → shown = header.1)
    (found : (narrow.find? (·.2.search line)).map (·.1) = some form) :
    (wide.find? (·.2.search line)).map (·.1) = some form := by
  obtain ⟨header, first, rfl⟩ := Option.map_eq_some_iff.1 found
  have covers : header.2.search line = true :=
    List.find?_some (p := fun header : Form × Pattern => header.2.search line) first
  obtain ⟨wider, mem, same, within⟩ := widened.exists_mem (List.mem_of_find?_eq_some first)
  rw [same]
  exact find?_of_unique unique mem (within.search covers)

end HeaderTable

namespace Language

/-- A header of JavaScript is a header of the same form in TypeScript. -/
theorem headerForm?_ts_of_js {line : Text} {form : Form}
    (found : js.headerForm? line = some form) : ts.headerForm? line = some form := by
  rw [headerForm?] at found ⊢
  split at found
  · cases found
  · rename_i steers
    rw [if_neg steers]
    exact HeaderTable.widened_js_ts.find? (fun _ mem => HeaderTable.shownForm_of_mem_ts mem) found

end Language

/-- What JavaScript finds in a line, TypeScript finds too: a header with the same form, and so,
among any lines, no fewer functions in the same order. Imports and tests are the same in both. -/
theorem headerForm?_ts_and_find_functions_sublist :
    (∀ {line : Text} {form : Form}, Language.js.headerForm? line = some form →
      Language.ts.headerForm? line = some form) ∧
    ∀ added : List ChangedLine,
      List.Sublist (Check.functions.find Language.js.tag added).value.entries
        (Check.functions.find Language.ts.tag added).value.entries ∧
      Check.imports.find Language.js.tag added = Check.imports.find Language.ts.tag added ∧
      Check.tests.find Language.js.tag added = Check.tests.find Language.ts.tag added := by
  refine ⟨Language.headerForm?_ts_of_js, fun added => ?_⟩
  simp only [Check.find, Language.ofTag?_tag]
  refine ⟨?_, rfl, rfl⟩
  apply List.Sublist.map
  apply List.monotone_filter_right
  intro line accepted
  obtain ⟨form, found⟩ := Option.isSome_iff_exists.1 accepted
  exact Option.isSome_iff_exists.2 ⟨form, Language.headerForm?_ts_of_js found⟩

/-- A function with type parameters, and one without a keyword. -/
def typedLines : List ChangedLine :=
  [⟨1, "function f<T>(a) \x7b".toList⟩, ⟨2, "let g = a => a".toList⟩]

/-- A method whose name is a modifier is one in both languages. Type parameters make a function only
in TypeScript. -/
theorem headerForm?_ts_and_find_functions_sublist_modifierName :
    Language.js.headerForm? "  static async get (a) \x7b".toList = some .method ∧
      Language.ts.headerForm? "  static async get (a) \x7b".toList = some .method ∧
      (Check.functions.find Language.js.tag typedLines).value.entries =
        [⟨2, "let g = a => a".toList⟩] ∧
      List.Sublist [⟨2, "let g = a => a".toList⟩]
        (Check.functions.find Language.ts.tag typedLines).value.entries := by
  obtain ⟨forms, finds⟩ := headerForm?_ts_and_find_functions_sublist
  have method : Language.js.headerForm? "  static async get (a) \x7b".toList = some .method := by
    decide
  have script : (Check.functions.find Language.js.tag typedLines).value.entries =
      [⟨2, "let g = a => a".toList⟩] := by
    decide
  have both := (finds typedLines).1
  rw [script] at both
  exact ⟨method, forms method, script, both⟩

end PatchSurvey
