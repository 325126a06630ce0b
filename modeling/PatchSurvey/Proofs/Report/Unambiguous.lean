import Mathlib.Data.List.Sublists
import PatchSurvey.Proofs.Report.Rows

/-! # Summaries that are the same text

The rows of a summary can be told apart, although a section without entries is left
out: only a section begins with its opening tag, and an entry is never a tag. Two
analyses that are reported without a hint from outside have the same summary exactly
if they agree on all that it shows. -/

namespace PatchSurvey.Summary

variable {first second : Analysis}

/-- Two analyses agree on what a summary shows. -/
structure SameFacts (first second : Analysis) : Prop where
  name : first.displayName "unknown" = second.displayName "unknown"
  language : first.language = second.language
  isTestFile : first.isTestFile = second.isTestFile
  unsupported : first.unsupportedChecks = second.unsupportedChecks
  functions : first.functions.entries = second.functions.entries
  imports : first.imports.lines = second.imports.lines
  tests : first.tests.lines = second.tests.lines
  added : first.added.length = second.added.length
  deleted : first.deleted.length = second.deleted.length

/-! ## Entries -/

theorem entryRow_functions_injective : Function.Injective Check.functions.entryRow := by
  intro line other same
  have colon (n : Int) : ':' ∉ Text.ofInt n := by
    cases n with
    | ofNat n => exact fun mem => absurd (Text.isDigit_of_mem_ofNat mem) (by decide)
    | negSucc n =>
        apply List.not_mem_cons_of_ne_of_not_mem (by decide)
        exact fun mem => absurd (Text.isDigit_of_mem_ofNat mem) (by decide)
  have tail : Text.ofInt line.number ++ ": ".toList ++ line.content =
      Text.ofInt other.number ++ ": ".toList ++ other.content :=
    (List.cons.inj (List.append_cancel_left same)).2
  -- the colon ends the number, so it is found before the content is looked at
  have number : Text.ofInt line.number = Text.ofInt other.number := by
    have cut (line : ChangedLine) : (Text.ofInt line.number ++ ": ".toList ++
        line.content).takeWhile (· ≠ ':') = Text.ofInt line.number := by
      rw [List.append_assoc]
      exact Text.takeWhile_ne_append (colon line.number) (by simp)
    rw [← cut line, tail, cut other]
  rw [number] at tail
  have content := List.append_cancel_left tail
  cases line
  cases other
  rw [ChangedLine.mk.injEq]
  exact ⟨Text.ofInt_injective number, content⟩

theorem map_item_inj {lines others : List Text} (same : lines.map item = others.map item) :
    lines = others :=
  List.map_injective_iff.2 (fun _ _ same => List.append_cancel_left same) same

theorem closing_not_mem_map_entryRow (check : Check) (entries : List ChangedLine) (tag : String) :
    closing tag ∉ entries.map check.entryRow := by
  intro mem
  obtain ⟨entry, -, same⟩ := List.mem_map.1 mem
  have indented : (check.entryRow entry).head? = some ' ' := by cases check <;> rfl
  rw [same] at indented
  cases indented

/-! ## Sections -/

/-- What stands before the first stop is known from the whole. -/
theorem eq_and_eq_of_append_cons_eq {α : Type} {stop : α} {before others after rest : List α}
    (h₁ : stop ∉ before) (h₂ : stop ∉ others)
    (same : before ++ stop :: after = others ++ stop :: rest) : before = others ∧ after = rest := by
  induction before generalizing others with
  | nil =>
      cases others with
      | nil => exact ⟨rfl, (List.cons.inj same).2⟩
      | cons other others => exact absurd (List.cons.inj same).1 (List.ne_of_not_mem_cons h₂)
  | cons row before ih =>
      cases others with
      | nil => exact absurd (List.cons.inj same).1.symm (List.ne_of_not_mem_cons h₁)
      | cons other others =>
          obtain ⟨head, tail⟩ := List.cons.inj same
          obtain ⟨rows, rest⟩ := ih (List.not_mem_of_not_mem_cons h₁)
            (List.not_mem_of_not_mem_cons h₂) tail
          exact ⟨by rw [head, rows], rest⟩

/-- A block that may be missing is found before rows that do not begin with its tag. -/
theorem tagged_append_inj {tag : String} {rows others after rest : List Text}
    (h₁ : closing tag ∉ rows) (h₂ : closing tag ∉ others)
    (h₃ : opening tag ∉ after.head?) (h₄ : opening tag ∉ rest.head?)
    (same : tagged tag rows ++ after = tagged tag others ++ rest) :
    rows = others ∧ after = rest := by
  have absent {rows : List Text} (some : rows ≠ []) {after rest : List Text}
      (other : opening tag ∉ rest.head?) : tagged tag rows ++ after ≠ rest := by
    rintro rfl
    rw [tagged_of_ne_nil some] at other
    exact other rfl
  by_cases none : rows = []
  · subst none
    by_cases empty : others = []
    · subst empty
      exact ⟨rfl, same⟩
    · exact absurd same.symm (absent empty h₃)
  · by_cases empty : others = []
    · subst empty
      exact absurd same (absent none h₄)
    · rw [tagged_of_ne_nil none, tagged_of_ne_nil empty, List.append_assoc, List.append_assoc,
        List.cons_append, List.cons_append] at same
      exact eq_and_eq_of_append_cons_eq h₁ h₂ (List.cons.inj same).2

theorem opening_sectionTag_injective :
    Function.Injective fun check : Check => opening check.sectionTag := by
  intro check other same
  cases check <;> cases other <;> first | rfl | exact absurd same (by decide)

/-- The first row of some sections is the opening tag of one of them, if any has entries. -/
theorem mem_head?_sections_cases {analysis : Analysis} {checks : List Check} {rest : List Text}
    {row : Text} (head : row ∈ (checks.flatMap (sectionRows analysis) ++ rest).head?) :
    (∃ check ∈ checks, row = opening check.sectionTag) ∨ row ∈ rest.head? := by
  induction checks with
  | nil => exact Or.inr head
  | cons check checks ih =>
      rw [List.flatMap_cons, List.append_assoc, sectionRows] at head
      by_cases none : (analysis.found check).entries.map check.entryRow = []
      · rw [none] at head
        refine (ih head).imp_left ?_
        rintro ⟨later, mem, same⟩
        exact ⟨later, List.mem_cons_of_mem check mem, same⟩
      · rw [tagged_of_ne_nil none] at head
        exact Or.inl ⟨check, List.mem_cons_self, (Option.some.inj head).symm⟩

/-- The entries of all sections are known from the rows of the sections. -/
theorem sections_append_inj {checks : List Check} (distinct : checks.Nodup)
    {after rest : List Text}
    (h₁ : ∀ check ∈ checks, opening check.sectionTag ∉ after.head?)
    (h₂ : ∀ check ∈ checks, opening check.sectionTag ∉ rest.head?)
    (same : checks.flatMap (sectionRows first) ++ after =
      checks.flatMap (sectionRows second) ++ rest) :
    (∀ check ∈ checks, (first.found check).entries.map check.entryRow =
      (second.found check).entries.map check.entryRow) ∧ after = rest := by
  induction checks with
  | nil => exact ⟨fun check mem => (List.not_mem_nil mem).elim, same⟩
  | cons check checks ih =>
      obtain ⟨single, distinct⟩ := List.nodup_cons.1 distinct
      obtain ⟨here₁, h₁⟩ := List.forall_mem_cons.1 h₁
      obtain ⟨here₂, h₂⟩ := List.forall_mem_cons.1 h₂
      have behind {analysis : Analysis} {rows : List Text}
          (other : opening check.sectionTag ∉ rows.head?) :
          opening check.sectionTag ∉ (checks.flatMap (sectionRows analysis) ++ rows).head? := by
        intro head
        rcases mem_head?_sections_cases head with ⟨later, mem, same⟩ | head
        · exact single (opening_sectionTag_injective same ▸ mem)
        · exact other head
      rw [List.flatMap_cons, List.flatMap_cons, List.append_assoc, List.append_assoc] at same
      obtain ⟨entries, same⟩ := tagged_append_inj (closing_not_mem_map_entryRow check _ _)
        (closing_not_mem_map_entryRow check _ _) (behind here₁) (behind here₂) same
      obtain ⟨later, rest⟩ := ih distinct h₁ h₂ same
      exact ⟨List.forall_mem_cons.2 ⟨entries, later⟩, rest⟩

/-! ## Facts about the file -/

/-- The checks without tables are known from their names. -/
theorem unsupportedChecks_eq_of_joinWith_eq
    (same : Text.joinWith ", ".toList (first.unsupportedChecks.map (·.name)) =
      Text.joinWith ", ".toList (second.unsupportedChecks.map (·.name))) :
    first.unsupportedChecks = second.unsupportedChecks := by
  have all : ∀ checks ∈ Check.all.sublists, ∀ others ∈ Check.all.sublists,
      Text.joinWith ", ".toList (checks.map (·.name)) =
        Text.joinWith ", ".toList (others.map (·.name)) → checks = others := by
    decide +kernel
  apply all _ _ _ _ same
  · exact List.mem_sublists.2 List.filter_sublist
  · exact List.mem_sublists.2 List.filter_sublist

theorem truth_injective : Function.Injective truth := by
  intro value other same
  cases value <;> cases other <;> first | rfl | exact absurd same (by decide)

/-- The facts about the file are known from their rows, if what follows does not begin like the
last of them. -/
theorem fileRows_append_inj {after rest : List Text}
    (h₁ : ∀ row ∈ after.head?, row.head? ≠ some 'u')
    (h₂ : ∀ row ∈ rest.head?, row.head? ≠ some 'u')
    (same : fileRows first ++ after = fileRows second ++ rest) :
    first.displayName "unknown" = second.displayName "unknown" ∧
      first.language = second.language ∧ first.isTestFile = second.isTestFile ∧
      first.unsupportedChecks = second.unsupportedChecks ∧ after = rest := by
  simp only [fileRows, List.cons_append, List.nil_append, List.cons.injEq,
    List.append_cancel_left_eq] at same
  obtain ⟨name, language, kind, same⟩ := same
  refine ⟨name, language, truth_injective kind, ?_⟩
  cases none : first.unsupportedChecks with
  | nil =>
      cases empty : second.unsupportedChecks with
      | nil =>
          rw [none, empty] at same
          exact ⟨rfl, same⟩
      | cons check checks =>
          rw [none, empty, List.nil_append] at same
          rw [same] at h₁
          exact absurd rfl (h₁ _ rfl)
  | cons check checks =>
      cases empty : second.unsupportedChecks with
      | nil =>
          rw [none, empty, List.nil_append] at same
          rw [← same] at h₂
          exact absurd rfl (h₂ _ rfl)
      | cons other others =>
          rw [none, empty] at same
          obtain ⟨names, same⟩ := List.cons.inj same
          rw [← none, ← empty] at names ⊢
          exact ⟨unsupportedChecks_eq_of_joinWith_eq (List.append_cancel_left names), same⟩

/-! ## The whole summary -/

theorem countRows_inj (same : countRows first = countRows second) :
    first.added.length = second.added.length ∧ first.deleted.length = second.deleted.length := by
  simp only [countRows, List.cons.injEq, List.append_cancel_left_eq, and_true] at same
  exact ⟨Text.ofNat_injective same.1, Text.ofNat_injective same.2⟩

theorem sameFacts_of_rows_eq (same : rows first = rows second) :
    SameFacts first second := by
  have counted (analysis : Analysis) (check : Check) :
      opening check.sectionTag ∉ (countRows analysis).head? := by
    intro head
    have letter := congrArg List.head? (Option.some.inj head)
    cases letter
  have behind (analysis : Analysis) : ∀ row ∈ (Check.all.flatMap (sectionRows analysis) ++
      countRows analysis).head?, row.head? ≠ some 'u' := by
    intro row head
    rcases mem_head?_sections_cases head with ⟨check, -, rfl⟩ | head
    · simp [opening]
    · obtain rfl := Option.some.inj head
      simp
  rw [rows, rows, List.append_assoc, List.append_assoc] at same
  obtain ⟨name, language, kind, unsupported, same⟩ :=
    fileRows_append_inj (behind first) (behind second) same
  have distinct : Check.all.Nodup := by decide
  obtain ⟨entries, counts⟩ := sections_append_inj distinct
    (fun check _ => counted first check) (fun check _ => counted second check) same
  obtain ⟨added, deleted⟩ := countRows_inj counts
  have listed (check : Check) : (first.found check).entries.map check.entryRow =
      (second.found check).entries.map check.entryRow := entries check (Check.mem_all check)
  refine ⟨name, language, kind, unsupported, ?_, ?_, ?_, added, deleted⟩
  · exact List.map_injective_iff.2 entryRow_functions_injective (listed .functions)
  · apply map_item_inj
    rw [Matches.lines, Matches.lines, List.map_map, List.map_map]
    exact listed .imports
  · apply map_item_inj
    rw [Matches.lines, Matches.lines, List.map_map, List.map_map]
    exact listed .tests

theorem write_eq_of_sameFacts (facts : SameFacts first second) : write first = write second := by
  have body : bodyRows first = bodyRows second := by
    simp only [bodyRows, fileRows, countRows, facts.name, facts.language, facts.isTestFile,
      facts.unsupported, facts.functions, facts.imports, facts.tests, facts.added, facts.deleted]
  rw [write, write, body]

/-- Reported analyses have the same summary exactly if they agree on all that it shows. If they do,
both lack one or none does. -/
theorem write_eq_write_iff (h₁ : Analysis.Reported first) (h₂ : Analysis.Reported second) :
    (∀ text, write first = .ok text → (write second = .ok text ↔ SameFacts first second)) ∧
      (SameFacts first second → write first = write second) := by
  refine ⟨fun text written => ⟨fun other => ?_, fun facts => ?_⟩, write_eq_of_sameFacts⟩
  · have rows := (lines_of_write h₁.unbroken written).symm.trans (lines_of_write h₂.unbroken other)
    exact sameFacts_of_rows_eq (List.append_cancel_right (List.cons.inj rows).2)
  · rw [← write_eq_of_sameFacts facts, written]

open Analysis

/-- A patch that names its file. -/
def namedPatch : Text :=
  "+++ b/f.py\n@@ -1 +1,2 @@\n-x\n+import os\n+def f():".toList

/-- Its analysis. -/
def named : Logged Analysis :=
  ofChanges Path.builtInAliases (some "f.py".toList)
    [⟨1, "import os".toList⟩, ⟨2, "def f():".toList⟩] [⟨1, "x".toList⟩]

/-- A change set with one renamed file, whose lines are indented and which deletes another line. -/
def indentedDiff : Text :=
  "diff --git a/e.py b/f.py\n@@ -7,2 +1,3 @@\n+ import os\n-y\n+\tdef f(): \n z\n".toList

/-- The analysis of the file. -/
def indented : Analysis :=
  (ofChanges Path.builtInAliases (some "f.py".toList)
    [⟨1, " import os".toList⟩, ⟨2, "\tdef f(): ".toList⟩] [⟨2, "y".toList⟩]).value

/-- Their summaries are the same, as they show the same facts. -/
theorem write_eq_write_named_indented :
    Reported named.value ∧ Reported indented ∧
      ∃ text, write named.value = .ok text ∧ write indented = .ok text ∧
        SameFacts named.value indented := by
  have added : Hunk.changes .added namedPatch =
      .ok [⟨1, "import os".toList⟩, ⟨2, "def f():".toList⟩] := by decide +kernel
  have deleted : Hunk.changes .removed namedPatch = .ok [⟨1, "x".toList⟩] := by decide +kernel
  have path : pathOf namedPatch none = some "f.py".toList := by decide +kernel
  have analyzed := ofPatch_of_changes Path.builtInAliases none added deleted
  rw [path] at analyzed
  have results : (BatchReport.ofDiff Path.builtInAliases indentedDiff).value.results =
      [indented] := by decide +kernel
  have first : Reported named.value := .patch analyzed
  have second : Reported indented := .changeSet (results ▸ List.mem_singleton_self indented)
  have short : hasOverlong named.value = false := by decide +kernel
  have written := write_eq_ok_iff.2 ⟨short, rfl⟩
  have same : write named.value = write indented := by decide +kernel
  have other := same.symm.trans written
  exact ⟨first, second, _, written, other, ((write_eq_write_iff first second).1 _ written).1 other⟩

end PatchSurvey.Summary
