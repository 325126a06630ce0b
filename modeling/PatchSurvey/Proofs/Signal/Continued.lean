import PatchSurvey.Proofs.Pattern.Seam
import PatchSurvey.Proofs.Signal.Comments
import PatchSurvey.Proofs.Signal.ControlFlow
import PatchSurvey.Proofs.Signal.ExclusiveForms

/-! # Lines that go on

A line keeps its signal, and a header its form, when text is added that does not go on with a
word. A header has a sign or a first word that lines of control flow do not have before they
are told as such, so that no text behind a header makes it control flow. -/

namespace PatchSurvey

open Pattern Text

/-! ## The signs of a header -/

/-- A sign in every header of the form, except in Ruby. -/
def Form.sign : Form → Char
  | .declaration | .method => '('
  | .expression => '='

namespace HeaderTable

/-- A row demands a sign that is one of its pieces. -/
theorem demands_of_exactly_mem (word : String) {sign : Char} (only : word.toList = [sign])
    {pieces : List Pattern} (here : exactly word ∈ pieces) : Demands sign (row pieces) :=
  Demands.row_of_mem (demands_exactly (only ▸ List.mem_singleton_self sign)) here

theorem demands_sign : ∀ language ∈ [Language.ts, .py, .go, .rust], ∀ header ∈ language.headers,
    Demands header.1.sign header.2 := by
  have bracket {pieces : List Pattern} (here : exactly "(" ∈ pieces) : Demands '(' (row pieces) :=
    demands_of_exactly_mem "(" rfl here
  have equals {pieces : List Pattern} (here : exactly "=" ∈ pieces) : Demands '=' (row pieces) :=
    demands_of_exactly_mem "=" rfl here
  have parameters : Demands '(' (enclosed "(" "()" ")") := bracket (by simp)
  simp only [List.forall_mem_cons, Language.headers, ts, py, go, rust]
  exact ⟨⟨bracket (by simp), equals (by simp), equals (by simp),
      parameters.row_of_mem (by simp), List.forall_mem_nil _⟩,
    ⟨bracket (by simp), equals (by simp), List.forall_mem_nil _⟩,
    ⟨bracket (by simp), equals (by simp), List.forall_mem_nil _⟩,
    ⟨bracket (by simp), equals (by simp), List.forall_mem_nil _⟩,
    List.forall_mem_nil _⟩

/-- A line with a header has its sign. -/
theorem sign_mem_of_search {language : Language} (mem : language ∈ [.js, .ts, .py, .go, .rust])
    {header : Form × Pattern} (among : header ∈ language.headers) {line : Text}
    (found : header.2.search line = true) : header.1.sign ∈ line := by
  rcases List.mem_cons.1 mem with rfl | mem
  · obtain ⟨wider, among, same, within⟩ := widened_js_ts.exists_mem among
    rw [same]
    exact (demands_sign .ts (by decide) wider among).mem_of_search (within.search found)
  · exact (demands_sign language mem header among).mem_of_search found

/-- Words that a header of Ruby begins with. -/
def rubyWords : List Text :=
  "def".toList :: defineWords

theorem exists_head?_of_search_ruby {header : Form × Pattern} (among : header ∈ ruby) {line : Text}
    (found : header.2.search line = true) :
    ∃ token ∈ rubyWords, (tokens line).head? = some token := by
  have word : Opened ["def".toList] (keyword "def") := opened_keyword (by decide) (by decide)
  simp only [ruby, List.mem_cons, List.not_mem_nil, or_false] at among
  rcases among with rfl | rfl
  · obtain ⟨token, mem, first⟩ := (word.row_cons _).exists_head?_of_search found
    exact ⟨token, List.mem_cons.2 (.inl (List.mem_singleton.1 mem)), first⟩
  · obtain ⟨token, mem, first⟩ := opened_define.exists_head?_of_search found
    exact ⟨token, List.mem_cons_of_mem _ mem, first⟩

end HeaderTable

/-! ## Control flow -/

/-- A shape of control flow ends where it reads a bracket, and reads no equals sign before. -/
theorem closesWith_of_mem_controlFlowTable : ∀ sign ∈ ['(', '='],
    ∀ shape ∈ controlFlowTable, shape.closesWith sign = true :=
  List.all_iff_forall_prop.1 (by decide +kernel)

namespace Language

variable {language : Language} {line more : Text}

/-- No text behind a header makes it control flow. -/
theorem isControlFlow_append_of_search (stop : more.head?.any isWord = false) (other : language ≠ .java)
    {header : Form × Pattern} (mem : header ∈ language.headers)
    (found : header.2.search line = true) (foundLonger : header.2.search (line ++ more) = true)
    (noControl : isControlFlow line = false) : isControlFlow (line ++ more) = false := by
  refine Bool.eq_false_iff.2 fun control => ?_
  have signed (among : language ∈ [.js, .ts, .py, .go, .rust]) : isControlFlow line = true := by
    obtain ⟨shape, inTable, covers⟩ := List.any_eq_true.1 control
    have signs : ∀ form : Form, form.sign ∈ ['(', '='] := by
      rintro (_ | _ | _) <;> decide
    refine List.any_eq_true.2 ⟨shape, inTable, ?_⟩
    exact search_of_append (anchored_of_mem_controlFlowTable shape inTable)
      (settled_of_mem_controlFlowTable shape inTable)
      (closesWith_of_mem_controlFlowTable _ (signs header.1) shape inTable)
      (HeaderTable.sign_mem_of_search among mem found) stop covers
  cases language with
  | java => exact other rfl
  | ruby =>
      obtain ⟨token, among, first⟩ := HeaderTable.exists_head?_of_search_ruby mem foundLonger
      obtain ⟨rest, whole⟩ := List.head?_eq_some_iff.1 first
      have steers := steers_of_isControlFlow control
      rw [whole] at steers
      have apart : ∀ token ∈ HeaderTable.rubyWords, token ∉ steeringStarts := by decide
      exact apart token among steers.mem_starts
  | js | ts | py | go | rust =>
      rw [signed (by decide)] at noControl
      cases noControl

/-- A header of the longer line has the form of the header of the line. -/
theorem headerForm?_append (stop : more.head?.any isWord = false) (other : language ≠ .java)
    {form : Form} (found : language.headerForm? line = some form) :
    language.headerForm? (line ++ more) = some form := by
  rw [headerForm?] at found
  split at found
  · cases found
  · rename_i noControl
    obtain ⟨header, first, rfl⟩ := Option.map_eq_some_iff.1 found
    have mem := List.mem_of_find?_eq_some first
    have covers : header.2.search line = true :=
      List.find?_some (p := fun header : Form × Pattern => header.2.search line) first
    have table : (Check.functions, language) ∉ Check.unsettled := by
      revert other
      cases language <;> decide
    have settled : header.2.settled = true :=
      Check.settled_of_mem_shapes .functions (Check.mem_all _) language language.mem_all table
        header.2 (List.mem_map_of_mem mem)
    have longer := search_append settled stop covers
    rw [headerForm?, isControlFlow_append_of_search stop other mem covers longer
      (Bool.eq_false_iff.2 noControl), if_neg Bool.false_ne_true]
    exact (exclusive_headers other).find?_of_mem mem longer

end Language

theorem Check.any_search_append {check : Check} {language : Language}
    (settled : (check, language) ∉ unsettled) {line more : Text}
    (stop : more.head?.any isWord = false)
    (found : (check.shapes language).any (·.search line) = true) :
    (check.shapes language).any (·.search (line ++ more)) = true := by
  obtain ⟨shape, mem, covers⟩ := List.any_eq_true.1 found
  have settled :=
    settled_of_mem_shapes check check.mem_all language language.mem_all settled shape mem
  exact List.any_eq_true.2 ⟨shape, mem, search_append settled stop covers⟩

/-- What is added to a line without going on with a word leaves a header its form, except in Java,
a test a test, and an import an import where no shape asks for the end of the line. -/
theorem headerForm?_append_and_isTestDeclaration_append {more : Text}
    (stop : more.head?.any isWord = false) :
    (∀ {language : Language}, language ≠ .java → ∀ {line : Text} {form : Form},
      language.headerForm? line = some form → language.headerForm? (line ++ more) = some form) ∧
    (∀ {language : Language} {line : Text}, language.isTestDeclaration line = true →
      language.isTestDeclaration (line ++ more) = true) ∧
    ∀ {language : Language}, language ∈ [.py, .java, .rust, .ruby] → ∀ {line : Text},
      language.isImport line = true → language.isImport (line ++ more) = true := by
  refine ⟨fun other _ _ => Language.headerForm?_append stop other, fun {language line} found => ?_,
    fun {language} mem line found => ?_⟩
  · have settled : (Check.tests, language) ∉ Check.unsettled := by
      cases language <;> decide
    exact Check.any_search_append settled stop found
  · have settled : ∀ language ∈ [Language.py, .java, .rust, .ruby],
        (Check.imports, language) ∉ Check.unsettled := by
      decide
    exact Check.any_search_append (settled language mem) stop found

/-- A body on the same line, with words and signs of control flow. -/
def bodyText : Text :=
  "; return (x = 1); end".toList

/-- A method that is named like a statement keeps its form with a body, and so do tests and
imports. -/
theorem headerForm?_append_and_isTestDeclaration_append_body :
    bodyText.head?.any isWord = false ∧ Language.ruby ≠ .java ∧
      Language.ruby.headerForm? "def new".toList = some .declaration ∧
      Language.ruby.headerForm? ("def new".toList ++ bodyText) = some .declaration ∧
      Language.ruby.isTestDeclaration "def test_new".toList = true ∧
      Language.ruby.isTestDeclaration ("def test_new".toList ++ bodyText) = true ∧
      Language.rust ∈ [Language.py, .java, .rust, .ruby] ∧
      Language.rust.isImport "use std::io".toList = true ∧
      Language.rust.isImport ("use std::io".toList ++ bodyText) = true := by
  have stop : bodyText.head?.any isWord = false := by decide
  have other : Language.ruby ≠ .java := by decide
  have header : Language.ruby.headerForm? "def new".toList = some .declaration := by decide
  have test : Language.ruby.isTestDeclaration "def test_new".toList = true := by decide
  have listed : Language.rust ∈ [Language.py, .java, .rust, .ruby] := by decide
  have imported : Language.rust.isImport "use std::io".toList = true := by decide
  obtain ⟨headers, tests, imports⟩ := headerForm?_append_and_isTestDeclaration_append stop
  exact ⟨stop, other, header, headers other header, test, tests test, listed, imported,
    imports listed imported⟩

end PatchSurvey
