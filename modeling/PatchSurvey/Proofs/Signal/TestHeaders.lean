import PatchSurvey.Proofs.Signal.ControlFlow
import PatchSurvey.Proofs.Signal.ExclusiveForms
import PatchSurvey.Proofs.Signal.Indentation

/-! # Tests that are functions

In Go every test is a function, and in Python and Ruby so is every test with the keyword of a
function. The shapes of such tests lie within the declarations of their language, and their
first tokens are none that steer control. -/

namespace PatchSurvey

open Pattern Text

namespace Pattern

/-- A name may stand for a word with a row of word characters behind it. -/
theorem Within.row_words (list : List String) (rows : ∀ word ∈ list, IsWordRow word.toList)
    {pieces others : List Pattern} (rest : Within (row pieces) (row others)) :
    Within (row (words list :: many wordChar :: pieces)) (row (name :: others)) := by
  intro a b spans
  obtain ⟨m, first, spans⟩ := spans_row_cons.1 spans
  obtain ⟨n, more, spans⟩ := spans_row_cons.1 spans
  obtain ⟨word, mem, begun⟩ := spans_words_iff.1 first
  obtain ⟨stretch, letters, read⟩ := spans_many_one_iff.1 more
  obtain ⟨some, plain⟩ := rows word mem
  have named : Spans name a n := by
    refine spans_oneOrMore_one_iff.2 ⟨word.toList ++ stretch, ?_, ?_, ?_⟩
    · exact List.append_ne_nil_of_left_ne_nil some stretch
    · exact List.forall_mem_append.2 ⟨plain, letters⟩
    · exact Place.reads_append_iff.2 ⟨m, begun, read⟩
  exact spans_row_cons.2 ⟨n, named, rest spans⟩

end Pattern

namespace TestTable

/-- The shapes of tests that begin with the keyword of a function. -/
def headers : Language → List Pattern
  | .py => py.take 1
  | .go => go
  | .ruby => (ruby.drop 1).take 1
  | .js | .ts | .java | .rust => []

/-- The line is a test that begins with the keyword of a function. -/
def isHeader (language : Language) (line : Text) : Bool :=
  (headers language).any (·.search line)

variable {language : Language} {shape : Pattern} {line : Text}

theorem headers_subset (language : Language) : headers language ⊆ language.testShapes := by
  cases language with
  | py => exact List.take_subset 1 py
  | go => exact List.Subset.refl go
  | ruby => exact List.Subset.trans (List.take_subset 1 _) (List.drop_subset 1 ruby)
  | js | ts | java | rust => exact List.nil_subset _

/-! ## Shapes of declarations -/

/-- The shape of such a test lies within a declaration of its language. -/
theorem exists_declaration (mem : shape ∈ headers language) :
    ∃ header ∈ language.headers, header.1 = .declaration ∧ Within shape header.2 := by
  have absent {body : Pattern} := Within.nothing_optional body
  cases language with
  | py =>
      obtain rfl := List.mem_singleton.1 mem
      refine ⟨_, List.mem_cons_self .., rfl, ?_⟩
      refine .row_append [indent, modifier "async", keyword "def"] ?_
      exact .row_words ["test"] (by decide) (.refl _)
  | go =>
      obtain rfl := List.mem_singleton.1 mem
      refine ⟨_, List.mem_cons_self .., rfl, ?_⟩
      refine .row_append [indent, keyword "func"] (.row_skip absent ?_)
      refine .row_words _ (by decide) (.row_append [blanks] (.row_skip absent ?_))
      exact .row_skip (.nothing_many blank) (.refl _)
  | ruby =>
      obtain rfl := List.mem_singleton.1 mem
      refine ⟨_, List.mem_cons_self .., rfl, ?_⟩
      refine .row_append [indent, keyword "def"] (.row_skip absent ?_)
      exact .row_words ["test_"] (by decide) (.row_skip absent (.refl _))
  | js | ts | java | rust => cases mem

/-! ## No control flow -/

/-- The words that such a test begins with. -/
def headerWords : List Text :=
  ["async", "def", "func"].map String.toList

theorem exists_head?_of_search (mem : shape ∈ headers language) (found : shape.search line = true) :
    ∃ token ∈ headerWords, (tokens line).head? = some token := by
  have word {word : String} (row : IsWordRow word.toList) (among : word.toList ∈ headerWords) :
      Opened headerWords (keyword word) :=
    opened_keyword row among
  cases language with
  | py =>
      obtain rfl := List.mem_singleton.1 mem
      refine Opened.exists_head?_of_search (.row_of_awaits ?_ (Opened.row_cons ?_ _)) found
      · exact (word (by decide) (by decide)).awaits_optional
      · exact word (by decide) (by decide)
  | go =>
      obtain rfl := List.mem_singleton.1 mem
      exact Opened.exists_head?_of_search ((word (by decide) (by decide)).row_cons _) found
  | ruby =>
      obtain rfl := List.mem_singleton.1 mem
      exact Opened.exists_head?_of_search ((word (by decide) (by decide)).row_cons _) found
  | js | ts | java | rust => cases mem

theorem isControlFlow_of_search (mem : shape ∈ headers language)
    (found : shape.search line = true) : isControlFlow line = false := by
  refine Bool.eq_false_iff.2 fun control => ?_
  obtain ⟨token, among, first⟩ := exists_head?_of_search mem found
  obtain ⟨rest, whole⟩ := List.head?_eq_some_iff.1 first
  have steers := steers_of_isControlFlow control
  rw [whole] at steers
  have apart : ∀ token ∈ headerWords, token ∉ steeringStarts := by decide
  exact apart token among steers.mem_starts

/-! ## Tests among functions -/

theorem headerForm?_of_isHeader (found : isHeader language line = true) :
    language.headerForm? line = some .declaration := by
  obtain ⟨shape, mem, covers⟩ := List.any_eq_true.1 found
  obtain ⟨header, among, form, within⟩ := exists_declaration mem
  have other : language ≠ .java := by
    rintro rfl
    cases mem
  rw [Language.headerForm?, isControlFlow_of_search mem covers, if_neg Bool.false_ne_true, ← form]
  exact (Language.exclusive_headers other).find?_of_mem among (within.search covers)

theorem accepts_of_isHeader (found : isHeader language line = true) (check : Check)
    (other : check ≠ .imports) : check.accepts language line = true := by
  cases check with
  | functions => exact Option.isSome_of_eq_some (headerForm?_of_isHeader found)
  | imports => exact absurd rfl other
  | tests =>
      obtain ⟨shape, mem, covers⟩ := List.any_eq_true.1 found
      exact List.any_eq_true.2 ⟨shape, headers_subset language mem, covers⟩

/-- Lines with such tests are recorded in their order, as tests and as functions. -/
theorem sublist_entries (language : Language) (added : List ChangedLine) (check : Check)
    (other : check ≠ .imports) :
    List.Sublist ((added.filter (isHeader language ·.content)).map ChangedLine.trimmed)
      (check.find language.tag added).value.entries := by
  rw [Check.find, Language.ofTag?_tag]
  apply List.Sublist.map
  apply List.monotone_filter_right
  intro line found
  exact accepts_of_isHeader found check other

/-- In Go there are no other tests. -/
theorem entries_go (added : List ChangedLine) :
    (Check.tests.find Language.go.tag added).value.entries =
      (added.filter (isHeader .go ·.content)).map ChangedLine.trimmed := by
  rw [Check.find, Language.ofTag?_tag]
  rfl

end TestTable

/-- A test that begins with the keyword of a function is a declaration and steers no control. Among
any lines such tests are recorded, trimmed and with their numbers, as tests and as functions, and
in Go every recorded test is such a one. -/
theorem headerForm?_of_isHeader_and_find_tests_sublist :
    (∀ {language : Language} {line : Text}, TestTable.isHeader language line = true →
      isControlFlow line = false ∧ language.headerForm? line = some .declaration) ∧
    (∀ (language : Language) (added : List ChangedLine),
      let headers := (added.filter (TestTable.isHeader language ·.content)).map ChangedLine.trimmed
      headers.Sublist (Check.tests.find language.tag added).value.entries ∧
        headers.Sublist (Check.functions.find language.tag added).value.entries) ∧
    ∀ added : List ChangedLine,
      List.Sublist (Check.tests.find Language.go.tag added).value.entries
        (Check.functions.find Language.go.tag added).value.entries := by
  refine ⟨fun found => ⟨?_, TestTable.headerForm?_of_isHeader found⟩, fun language added => ⟨?_, ?_⟩,
    fun added => ?_⟩
  · obtain ⟨shape, mem, covers⟩ := List.any_eq_true.1 found
    exact TestTable.isControlFlow_of_search mem covers
  · exact TestTable.sublist_entries language added .tests (by decide)
  · exact TestTable.sublist_entries language added .functions (by decide)
  · rw [TestTable.entries_go]
    exact TestTable.sublist_entries .go added .functions (by decide)

/-- A benchmark, a method of a suite, and an example behind a closing brace. -/
def goTests : List ChangedLine :=
  [⟨3, "\tfunc  BenchmarkSum_2 (b *testing.B) \x7b".toList⟩,
    ⟨4, "func (s *Suite) TestSum() \x7b".toList⟩, ⟨9, "\x7d func ExampleSum() \x7b".toList⟩]

/-- A benchmark is a test and a function. A method of a suite is only a function, and what follows a
brace is neither. -/
theorem headerForm?_of_isHeader_and_find_tests_sublist_goTests :
    TestTable.isHeader .py "async def testing (x):".toList = true ∧
      Language.py.headerForm? "async def testing (x):".toList = some .declaration ∧
      (Check.tests.find Language.go.tag goTests).value.entries =
        [⟨3, "func  BenchmarkSum_2 (b *testing.B) \x7b".toList⟩] ∧
      List.Sublist [⟨3, "func  BenchmarkSum_2 (b *testing.B) \x7b".toList⟩]
        (Check.functions.find Language.go.tag goTests).value.entries := by
  obtain ⟨declares, -, inGo⟩ := headerForm?_of_isHeader_and_find_tests_sublist
  have header : TestTable.isHeader .py "async def testing (x):".toList = true := by decide
  have tests : (Check.tests.find Language.go.tag goTests).value.entries =
      [⟨3, "func  BenchmarkSum_2 (b *testing.B) \x7b".toList⟩] := by
    decide
  have both := inGo goTests
  rw [tests] at both
  exact ⟨header, (declares header).2, tests, both⟩

end PatchSurvey
