import PatchSurvey.Proofs.Signal.Comments
import PatchSurvey.Proofs.Signal.Indentation
import PatchSurvey.Proofs.Signal.JavaThrows

/-! # Recorded lines

A check reads whole lines and records them without the blanks around them. What it records it
records again when it reads it, except for a method of Java whose exceptions are blanks at the
end of the line. -/

namespace PatchSurvey

open Pattern Text

/-- The lines that the two columns of an answer stand for. -/
def Matches.rebuilt (found : Matches) : List ChangedLine :=
  List.zipWith ChangedLine.mk found.numbers found.lines

theorem Matches.rebuilt_eq (found : Matches) : found.rebuilt = found.entries := by
  have whole := ofColumns_lines_numbers found
  rw [ofColumns, if_pos found.length_lines] at whole
  exact congrArg entries (Except.ok.inj whole)

variable {line : Text}

/-- Trimming makes no line control flow. -/
theorem isControlFlow_trim (noControl : isControlFlow line = false) :
    isControlFlow (trim line) = false := by
  obtain ⟨indent, behind, whole⟩ := exists_eq_append_trim line
  refine Bool.eq_false_iff.2 fun control => ?_
  obtain ⟨shape, mem, found⟩ := List.any_eq_true.1 control
  have stop := isWord_head?_of_suffix behind.isBlank_of_mem List.suffix_rfl
  have longer := search_append (settled_of_mem_controlFlowTable shape mem) stop found
  have control : isControlFlow line = true := by
    rw [whole, isControlFlow_blanks_append]
    exact List.any_eq_true.2 ⟨shape, mem, longer⟩
  rw [control] at noControl
  cases noControl

namespace Check

variable {check : Check} {language : Language}

/-- A shape that is found is found in the trimmed line, if it needs no blanks at the end. -/
theorem search_trim {shape : Pattern} (mem : shape ∈ check.shapes language)
    (retreats : shape.retreats = true) (found : shape.search line = true) :
    shape.search (trim line) = true := by
  obtain ⟨indent, behind, whole⟩ := exists_eq_append_trim line
  rw [whole, search_blanks_append indent _ mem] at found
  exact search_of_append_blanks behind.isBlank_of_mem retreats
    (shapes_demandVisible check check.mem_all language language.mem_all shape mem) found

theorem retreats_of_mem_shapes : ∀ check ∈ all, ∀ language ∈ Language.all,
    (check, language) ≠ (functions, .java) → ∀ shape ∈ check.shapes language,
      shape.retreats = true := by
  decide +kernel

theorem accepts_trim (accepted : check.accepts language line = true)
    (other : (check, language) ≠ (functions, .java)) :
    check.accepts language (trim line) = true := by
  obtain ⟨noControl, shape, mem, found⟩ := accepts_iff.1 accepted
  have retreats :=
    retreats_of_mem_shapes check check.mem_all language language.mem_all other shape mem
  exact accepts_iff.2 ⟨fun functions => isControlFlow_trim (noControl functions), shape, mem,
    search_trim mem retreats found⟩

/-! ## Methods of Java -/

theorem accepts_java_iff (noControl : isControlFlow line = false) :
    functions.accepts .java line = true ↔
      JavaHead.declaration.search line = true ∨ JavaHead.method.search line = true := by
  have shapes : functions.shapes .java = [JavaHead.declaration, JavaHead.method] := rfl
  rw [accepts_iff, and_iff_right fun _ => noControl, shapes]
  simp

/-- The header of a method is lost if it ends in `throws` when it is trimmed. -/
theorem accepts_trim_java_iff (accepted : functions.accepts .java line = true) :
    functions.accepts .java (trim line) = true ↔
      ¬ (Language.java.headerForm? line = some .method ∧
        JavaHead.bareThrows.search (trim line) = true) := by
  obtain ⟨noControl, -⟩ := accepts_iff.1 accepted
  rw [accepts_java_iff (noControl rfl)] at accepted
  rw [accepts_java_iff (isControlFlow_trim (noControl rfl)),
    headerForm?_java_eq_method_iff (noControl rfl)]
  obtain ⟨indent, behind, whole⟩ := exists_eq_append_trim line
  have behindIndent {shape : Pattern} (mem : shape ∈ functions.shapes .java) :
      shape.search line = shape.search (trim line ++ behind.text) :=
    (congrArg shape.search whole).trans (search_blanks_append indent _ mem)
  have declared : JavaHead.declaration ∈ functions.shapes .java := List.mem_cons_self ..
  have method : JavaHead.method ∈ functions.shapes .java :=
    List.mem_cons_of_mem JavaHead.declaration (List.mem_singleton_self JavaHead.method)
  cases found : JavaHead.declaration.search line with
  | true =>
      have trimmed := search_trim declared JavaHead.retreats_declaration found
      exact iff_of_true (.inl trimmed) fun lost => Bool.noConfusion lost.1.1
  | false =>
      have foundMethod : JavaHead.method.search line = true :=
        accepted.resolve_left (Bool.eq_false_iff.1 found)
      have noDeclaration : ¬ JavaHead.declaration.search (trim line) = true := by
        intro trimmed
        rw [behindIndent declared,
          JavaHead.search_declaration_append behind.isBlank_of_mem trimmed] at found
        cases found
      rw [or_iff_right noDeclaration, and_iff_right ⟨rfl, foundMethod⟩]
      constructor
      · intro trimmed bare
        rw [JavaHead.not_search_method_of_bareThrows bare] at trimmed
        cases trimmed
      · intro bare
        rw [behindIndent method] at foundMethod
        exact (JavaHead.search_method_or_bareThrows behind.isBlank_of_mem (visible_trim line).last
          foundMethod).resolve_right bare

/-! ## Recording twice -/

/-- The line is recorded for exceptions that are blanks at its end. -/
def forgets (check : Check) (key line : Text) : Bool :=
  check = functions && key = Language.java.tag && Language.java.headerForm? line = some .method &&
    JavaHead.bareThrows.search (trim line)

theorem forgets_tag_iff :
    check.forgets language.tag line = true ↔ (check, language) = (functions, .java) ∧
      Language.java.headerForm? line = some .method ∧
        JavaHead.bareThrows.search (trim line) = true := by
  have tags : language.tag = Language.java.tag ↔ language = .java := by
    rw [← Language.ofTag?_eq_some_iff, Language.ofTag?_tag, Option.some_inj]
  simp [forgets, tags, and_assoc]

/-- What is recorded is accepted again unless it is forgotten. -/
theorem accepts_trim_iff (accepted : check.accepts language line = true) :
    check.accepts language (trim line) = true ↔ check.forgets language.tag line = false := by
  rw [← Bool.not_eq_true, forgets_tag_iff]
  by_cases same : (check, language) = (functions, .java)
  · obtain ⟨rfl, rfl⟩ := Prod.mk.inj same
    rw [and_iff_right rfl]
    exact accepts_trim_java_iff accepted
  · exact iff_of_true (accepts_trim accepted same) fun lost => same lost.1

theorem accepts_of_forgets (lost : check.forgets language.tag line = true) :
    check.accepts language line = true := by
  obtain ⟨same, method, -⟩ := forgets_tag_iff.1 lost
  obtain ⟨rfl, rfl⟩ := Prod.mk.inj same
  rw [accepts, method, Option.isSome_some]

/-- What a check records of its own record. -/
theorem entries_entries (check : Check) (language : Language) (added : List ChangedLine) :
    check.entries language (check.entries language added) =
      check.entries language
        (added.filter fun line => !check.forgets language.tag line.content) := by
  rw [entries_eq, entries_eq, entries_eq, List.filter_map, List.map_map, List.filter_filter,
    List.filter_filter]
  have kept : ∀ line ∈ added,
      (check.accepts language line.trimmed.content && check.accepts language line.content) =
        (check.accepts language line.content && !check.forgets language.tag line.content) := by
    intro line _
    cases accepted : check.accepts language line.content with
    | true =>
        rw [Bool.and_true, Bool.true_and, Bool.eq_iff_iff, Bool.not_eq_true']
        exact accepts_trim_iff accepted
    | false => rw [Bool.and_false, Bool.false_and]
  have trimmed : ChangedLine.trimmed ∘ ChangedLine.trimmed = ChangedLine.trimmed :=
    funext ChangedLine.trimmed_trimmed
  rw [trimmed]
  exact congrArg _ (List.filter_congr kept)

/-- The record is kept exactly if no line is forgotten. -/
theorem entries_filter_forgets_eq_iff (check : Check) (language : Language)
    (added : List ChangedLine) :
    check.entries language (added.filter fun line => !check.forgets language.tag line.content) =
        check.entries language added ↔
      ∀ line ∈ added, check.forgets language.tag line.content = false := by
  constructor
  · intro same line mem
    refine Bool.eq_false_iff.2 fun lost => ?_
    have lengths := congrArg List.length same
    rw [entries_eq, entries_eq, List.length_map, List.length_map, List.filter_comm] at lengths
    have accepted : line ∈ added.filter (check.accepts language ·.content) :=
      List.mem_filter.2 ⟨mem, accepts_of_forgets lost⟩
    have kept := List.length_filter_eq_length_iff.1 lengths line accepted
    rw [lost] at kept
    cases kept
  · intro kept
    have all : (added.filter fun line => !check.forgets language.tag line.content) = added :=
      List.filter_eq_self.2 fun line mem => by rw [kept line mem, Bool.not_false]
    rw [all]

theorem forgets_of_ofTag?_eq_none {key : Text} (unknown : Language.ofTag? key = none)
    (line : Text) : check.forgets key line = false := by
  refine Bool.eq_false_iff.2 fun lost => ?_
  have java : key = Language.java.tag := by
    simp only [forgets, Bool.and_eq_true, decide_eq_true_eq] at lost
    exact lost.1.1.2
  rw [java, Language.ofTag?_tag] at unknown
  cases unknown

/-- A check that reads its own answer gives the same answer without the lines that it forgets, so
the answer stays the same exactly if there are none. -/
theorem find_rebuilt_eq_and_eq_iff (check : Check) (key : Text) (added : List ChangedLine) :
    check.find key (check.find key added).value.rebuilt =
        check.find key (added.filter fun line => !check.forgets key line.content) ∧
      (check.find key (check.find key added).value.rebuilt = check.find key added ↔
        ∀ line ∈ added, check.forgets key line.content = false) := by
  rw [Matches.rebuilt_eq]
  cases found : Language.ofTag? key with
  | some language =>
      obtain rfl := Language.ofTag?_eq_some_iff.1 found
      have answer (lines : List ChangedLine) :
          check.find language.tag lines = ⟨⟨check.entries language lines, true⟩, []⟩ := by
        rw [find, found]
      simp only [answer, entries_entries, ← entries_filter_forgets_eq_iff,
        Logged.mk.injEq, Matches.mk.injEq, and_true]
  | none =>
      have answer (lines : List ChangedLine) :
          check.find key lines = ⟨.unsupported, [.noPatterns key check]⟩ := by
        rw [find, found]
      rw [answer, answer, answer]
      exact ⟨rfl, iff_of_true rfl fun line _ => forgets_of_ofTag?_eq_none found line.content⟩

/-- A method whose exceptions are two blanks. -/
def blankThrows : ChangedLine :=
  ⟨1, "int f() throws  ".toList⟩

/-- The two blanks are trimmed, so that the recorded line is recorded no more. -/
theorem find_rebuilt_ne_blankThrows :
    (functions.find Language.java.tag [blankThrows]).value.rebuilt =
        [⟨1, "int f() throws".toList⟩] ∧
      (functions.find Language.java.tag [⟨1, "int f() throws".toList⟩]).value = .empty ∧
      (functions.find Language.java.tag
          (functions.find Language.java.tag [blankThrows]).value.rebuilt).value ≠
        (functions.find Language.java.tag [blankThrows]).value := by
  decide

end Check

end PatchSurvey
