import Mathlib.Data.List.Find
import PatchSurvey.Proofs.Pattern.Indentation
import PatchSurvey.Proofs.Signal.Visible
import PatchSurvey.Signal.Find

/-! # Indentation

No shape in the tables depends on the blanks before a line. Lines that differ only in their
indentation carry the same signals and are recorded alike. -/

namespace PatchSurvey

open Pattern Text

/-! ## Shapes -/

theorem ignoresIndent_of_mem_controlFlowTable : ∀ shape ∈ controlFlowTable,
    shape.ignoresIndent = true := by
  decide +kernel

theorem Check.ignoresIndent_of_mem_shapes : ∀ check ∈ all, ∀ language ∈ Language.all,
    ∀ shape ∈ check.shapes language, shape.ignoresIndent = true := by
  decide +kernel

section

variable {language : Language} {check : Check} (indent : Blanks) (line : Text)

theorem any_search_blanks_append {shapes : List Pattern}
    (ignores : ∀ shape ∈ shapes, shape.ignoresIndent = true) :
    shapes.any (·.search (indent.text ++ line)) = shapes.any (·.search line) := by
  rw [Bool.eq_iff_iff, List.any_eq_true, List.any_eq_true]
  refine exists_congr fun shape => and_congr_right fun mem => ?_
  rw [search_append_of_ignoresIndent (ignores shape mem) indent.isBlank_of_mem]

theorem isControlFlow_blanks_append : isControlFlow (indent.text ++ line) = isControlFlow line :=
  any_search_blanks_append indent line ignoresIndent_of_mem_controlFlowTable

theorem Check.search_blanks_append {shape : Pattern} (mem : shape ∈ check.shapes language) :
    shape.search (indent.text ++ line) = shape.search line :=
  search_append_of_ignoresIndent
    (ignoresIndent_of_mem_shapes check check.mem_all language language.mem_all shape mem)
    indent.isBlank_of_mem line

theorem Check.accepts_blanks_append :
    check.accepts language (indent.text ++ line) = check.accepts language line := by
  rw [Bool.eq_iff_iff, accepts_iff, accepts_iff, isControlFlow_blanks_append]
  refine and_congr_right fun _ => exists_congr fun shape => and_congr_right fun mem => ?_
  rw [search_blanks_append indent line mem]

theorem Language.headerForm?_blanks_append :
    language.headerForm? (indent.text ++ line) = language.headerForm? line := by
  have same : ∀ header ∈ language.headers,
      header.2.search (indent.text ++ line) = header.2.search line := by
    intro header mem
    have among : header.2 ∈ Check.functions.shapes language := List.mem_map_of_mem mem
    exact Check.search_blanks_append indent line among
  rw [headerForm?, headerForm?, isControlFlow_blanks_append, List.find?_congr same]

end

/-! ## Recorded lines -/

namespace ChangedLine

/-- The line with blanks before it. -/
def indented (indent : Blanks) (line : ChangedLine) : ChangedLine :=
  { line with content := indent.text ++ line.content }

/-- The line without the blanks around it. -/
def trimmed (line : ChangedLine) : ChangedLine :=
  { line with content := Text.trim line.content }

@[simp] theorem trimmed_indented (indent : Blanks) (line : ChangedLine) :
    (line.indented indent).trimmed = line.trimmed := by
  rw [trimmed, trimmed, indented, Text.trim, trimStart_blanks_append indent.isBlank_of_mem,
    Text.trim]

@[simp] theorem trimmed_trimmed (line : ChangedLine) : line.trimmed.trimmed = line.trimmed :=
  congrArg (ChangedLine.mk line.number) (trim_trim line.content)

end ChangedLine

namespace Check

theorem entries_eq (check : Check) (language : Language) (added : List ChangedLine) :
    check.entries language added =
      (added.filter (check.accepts language ·.content)).map ChangedLine.trimmed :=
  rfl

theorem entries_indented (check : Check) (language : Language)
    (added : List (Blanks × ChangedLine)) :
    check.entries language (added.map fun (indent, line) => line.indented indent) =
      check.entries language (added.map Prod.snd) := by
  rw [entries_eq, entries_eq, List.filter_map, List.filter_map, List.map_map, List.map_map]
  have accepted : ∀ each ∈ added, check.accepts language (each.2.indented each.1).content =
      check.accepts language each.2.content :=
    fun (indent, line) _ => accepts_blanks_append indent line.content
  have trimmed : ∀ each ∈ added.filter (check.accepts language ·.2.content),
      (each.2.indented each.1).trimmed = each.2.trimmed :=
    fun (indent, line) _ => line.trimmed_indented indent
  exact (congrArg _ (List.filter_congr accepted)).trans (List.map_congr_left trimmed)

end Check

/-- Blanks before a line change none of its signals, and each check records the same lines. -/
theorem signals_blanks_append_and_find_indented :
    (∀ (language : Language) (indent : Blanks) (line : Text),
      isControlFlow (indent.text ++ line) = isControlFlow line ∧
        language.headerForm? (indent.text ++ line) = language.headerForm? line ∧
        language.isImport (indent.text ++ line) = language.isImport line ∧
        language.isTestDeclaration (indent.text ++ line) = language.isTestDeclaration line) ∧
    ∀ (check : Check) (key : Text) (added : List (Blanks × ChangedLine)),
      check.find key (added.map fun (indent, line) => line.indented indent) =
        check.find key (added.map Prod.snd) := by
  constructor
  · intro language indent line
    have imports : Check.imports.accepts language (indent.text ++ line) =
        Check.imports.accepts language line := Check.accepts_blanks_append indent line
    have tests : Check.tests.accepts language (indent.text ++ line) =
        Check.tests.accepts language line := Check.accepts_blanks_append indent line
    exact ⟨isControlFlow_blanks_append indent line, Language.headerForm?_blanks_append indent line,
      imports, tests⟩
  · intro check key added
    rw [Check.find, Check.find]
    cases Language.ofTag? key with
    | some language => simp only [Check.entries_indented]
    | none => rfl

end PatchSurvey
