import PatchSurvey.Proofs.Analysis.Undisturbed
import PatchSurvey.Proofs.Signal.Visible

/-! # Where matches come from

The matches of an analysis are the added lines that carry a signal, each with its
own number and without the blanks around it. None of them is empty or broken by a
line feed, and all checks have tables for a language or none has. -/

namespace PatchSurvey

open Hunk

/-! ## Recorded lines -/

/-- A recorded line stands in the patch behind the sign of its side. -/
theorem Hunk.sign_cons_mem_rows_of_changes {side : Side} {patch : Text} {found : List ChangedLine}
    (recorded : changes side patch = .ok found) {change : ChangedLine} (mem : change ∈ found) :
    side.sign :: change.content ∈ rows patch := by
  rw [changes_eq_marks] at recorded
  cases places : marks side .outside 0 (rows patch) with
  | error fault => rw [places] at recorded; cases recorded
  | ok marked =>
      rw [places] at recorded
      obtain rfl := Except.ok.inj recorded
      obtain ⟨mark, among, rfl⟩ := List.mem_map.1 mem
      have marked : marks side .outside ([] : List Text).length (rows patch) = .ok marked := places
      obtain ⟨content, here⟩ := exists_sign_of_mem_marks marked among
      rw [List.nil_append] at here
      rw [changedAt, List.getD_eq_getElem?_getD, here]
      exact List.mem_of_getElem? here

theorem Hunk.newline_not_mem_of_mem_rows {patch line : Text} (mem : line ∈ rows patch) :
    '\n' ∉ line := by
  obtain ⟨whole, found, rfl⟩ := List.mem_map.1 mem
  obtain ⟨tail, same⟩ := Text.eq_dropReturn_append whole
  have plain := Text.newline_not_mem_of_mem_lines found
  rw [same] at plain
  exact fun feed => plain (List.mem_append_left tail feed)

theorem Hunk.newline_not_mem_of_mem_changes {side : Side} {patch : Text} {found : List ChangedLine}
    (recorded : changes side patch = .ok found) {change : ChangedLine} (mem : change ∈ found) :
    '\n' ∉ change.content := by
  intro feed
  exact newline_not_mem_of_mem_rows (sign_cons_mem_rows_of_changes recorded mem)
    (List.mem_cons_of_mem _ feed)

/-! ## Matches -/

namespace Check

/-- The added lines that carry the signal in the language of a key, none if the key has no
tables. -/
def carriers (check : Check) (key : Text) (added : List ChangedLine) : List ChangedLine :=
  match Language.ofTag? key with
  | some language => added.filter fun line => check.accepts language line.content
  | none => []

theorem entries_find (check : Check) (key : Text) (added : List ChangedLine) :
    (check.find key added).value.entries = (check.carriers key added).map fun line =>
      { line with content := Text.trim line.content } := by
  rw [find, carriers]
  cases Language.ofTag? key <;> rfl

theorem mem_and_hasVisible_of_mem_carriers {check : Check} {key : Text} {added : List ChangedLine}
    {line : ChangedLine} (mem : line ∈ check.carriers key added) :
    line ∈ added ∧ line.content.HasVisible := by
  rw [carriers] at mem
  cases found : Language.ofTag? key with
  | none => rw [found] at mem; cases mem
  | some language =>
      rw [found] at mem
      obtain ⟨among, accepted⟩ := List.mem_filter.1 mem
      exact ⟨among, hasVisible_of_accepts accepted⟩

/-- What is found for a key among added lines: the lines that carry the signal, in order, each once,
under its own number and without the blanks around it. -/
structure Finds (check : Check) (key : Text) (added : List ChangedLine) (found : Matches) :
    Prop where
  pairs : found.numbers.zip found.lines =
    (check.carriers key added).map fun line => (line.number, Text.trim line.content)
  length : found.lines.length = found.numbers.length
  columns : Matches.ofColumns
    ((check.carriers key added).map fun line => Text.trim line.content)
    ((check.carriers key added).map fun line => line.number) found.supported = .ok found
  supported : found.supported = (Language.ofTag? key).isSome

theorem finds_find (check : Check) (key : Text) (added : List ChangedLine) :
    check.Finds key added (check.find key added).value := by
  have lines : (check.find key added).value.lines =
      (check.carriers key added).map fun line => Text.trim line.content := by
    rw [Matches.lines, entries_find, List.map_map]
    rfl
  have numbers : (check.find key added).value.numbers =
      (check.carriers key added).map fun line => line.number := by
    rw [Matches.numbers, entries_find, List.map_map]
    rfl
  refine ⟨?_, Matches.length_lines _, ?_, Analysis.supported_find check key added⟩
  · rw [lines, numbers, List.zip_map']
  · rw [← lines, ← numbers]
    exact Matches.ofColumns_lines_numbers _

end Check

namespace Analysis

variable (aliases : Path.Aliases)

/-- The checks without a table for a key are all or none. -/
theorem unsupportedChecks_eq {analysis : Analysis} {supported : Bool}
    (same : ∀ check, (analysis.found check).supported = supported) :
    analysis.unsupportedChecks = if supported then [] else Check.all := by
  simp only [unsupportedChecks, same]
  cases supported <;> rfl

/-- What is logged on the way to an analysis. -/
theorem events_ofChanges (path : Option Text) (added deleted : List ChangedLine) :
    (ofChanges aliases path added deleted).events =
      (ofChanges aliases path added deleted).value.unsupportedChecks.map
          (.noPatterns (Path.resolve aliases (languageOf path))) ++
        [.analyzed path (languageOf path) added.length deleted.length
          (ofChanges aliases path added deleted).value.functions.lines.length] := by
  have supported (check : Check) :
      ((ofChanges aliases path added deleted).value.found check).supported =
        (Language.ofTag? (Path.resolve aliases (languageOf path))).isSome := by
    rw [found_ofChanges, supported_find]
  rw [unsupportedChecks_eq supported, Matches.lines, List.length_map]
  simp only [ofChanges, Check.find]
  cases Language.ofTag? (Path.resolve aliases (languageOf path)) <;> rfl

/-- An analysis whose matches are picked from its added lines for the key of its language. Every
recorded line has a character and no line feed. The checks without tables are all or none, and they
are logged in order before one entry that counts what the analysis holds. -/
structure Sourced (logged : Logged Analysis) : Prop where
  finds : ∀ check : Check, check.Finds (Path.resolve aliases logged.value.language)
    logged.value.added (logged.value.found check)
  recorded : ∀ check, ∀ line ∈ (logged.value.found check).lines, line ≠ [] ∧ '\n' ∉ line
  unsupported : logged.value.unsupportedChecks = [] ∨
    logged.value.unsupportedChecks = Check.all ∧
      ∀ check, (logged.value.found check).lines = []
  entries : logged.events.map Event.entry =
    logged.value.unsupportedChecks.map (fun check => {
        level := .warning
        message := "No patterns defined for language".toList
        fields := [
          ("language".toList, .string (Path.resolve aliases logged.value.language)),
          ("matcher".toList, .string check.name)] }) ++
      [{level := .debug
        message := "Diff analyzed".toList
        fields := [
          ("file_path".toList, .optional logged.value.filename),
          ("language".toList, .string logged.value.language),
          ("added".toList, .count logged.value.added.length),
          ("deleted".toList, .count logged.value.deleted.length),
          ("new_functions".toList, .count logged.value.functions.lines.length)] }]

/-- What a check finds among the added lines of a patch has a character and no line feed. -/
theorem plain_of_mem_lines_find {patch : Text} {added : List ChangedLine}
    (recorded : changes .added patch = .ok added) {check : Check} {key line : Text}
    (mem : line ∈ (check.find key added).value.lines) : line ≠ [] ∧ '\n' ∉ line := by
  rw [Matches.lines, Check.entries_find, List.map_map] at mem
  obtain ⟨change, among, rfl⟩ := List.mem_map.1 mem
  obtain ⟨isAdded, visible⟩ := Check.mem_and_hasVisible_of_mem_carriers among
  exact ⟨Text.trim_ne_nil_iff.2 visible, fun feed =>
    newline_not_mem_of_mem_changes recorded isAdded (Text.mem_of_mem_trim feed)⟩

/-- Every text that has an analysis has one of this kind. -/
theorem sourced_of_ofPatch {patch : Text} {hint : Option Text} {logged : Logged Analysis}
    (analyzed : ofPatch aliases (.text patch) hint = .ok logged) : Sourced aliases logged := by
  obtain ⟨text, added, deleted, same, recorded, -, rfl⟩ :=
    eq_ofChanges_of_ofPatch aliases hint analyzed
  obtain rfl := PatchInput.text.inj same
  refine ⟨?_, ?_, ?_, ?_⟩
  · intro check
    rw [found_ofChanges]
    exact check.finds_find _ added
  · intro check line mem
    rw [found_ofChanges] at mem
    exact plain_of_mem_lines_find recorded mem
  · have supported (check : Check) := supported_find check
      (Path.resolve aliases (languageOf (pathOf patch hint))) added
    simp only [← found_ofChanges aliases _ added deleted] at supported
    rw [unsupportedChecks_eq supported]
    cases found : Language.ofTag? (Path.resolve aliases (languageOf (pathOf patch hint))) with
    | some language => exact Or.inl rfl
    | none =>
        refine Or.inr ⟨rfl, fun check => ?_⟩
        rw [found_ofChanges, Check.find, found]
        rfl
  · rw [events_ofChanges, List.map_append, List.map_map]
    rfl

/-- A file whose tag is an alias, with a function that is a test, an import and a blank line. -/
def aliasedPatch : Text :=
  ("+++ b/a/t.pyw\n@@ -1,2 +1,5 @@\n-x\n+  import os \n+\t\n+ def test_a():\n" ++
    "+  return f(1)\n y").toList

/-- The lines that this patch adds. -/
def aliasedLines : List ChangedLine :=
  [⟨1, "  import os ".toList⟩, ⟨2, "\t".toList⟩, ⟨3, " def test_a():".toList⟩,
    ⟨4, "  return f(1)".toList⟩]

/-- Its signals come from its added lines. -/
theorem sourced_aliasedPatch :
    ofPatch Path.builtInAliases (.text aliasedPatch) none =
        .ok (ofChanges Path.builtInAliases (some "a/t.pyw".toList) aliasedLines
          [⟨1, "x".toList⟩]) ∧
      Sourced Path.builtInAliases (ofChanges Path.builtInAliases (some "a/t.pyw".toList)
        aliasedLines [⟨1, "x".toList⟩]) := by
  have added : changes .added aliasedPatch = .ok aliasedLines := by decide +kernel
  have deleted : changes .removed aliasedPatch = .ok [⟨1, "x".toList⟩] := by decide +kernel
  have path : pathOf aliasedPatch none = some "a/t.pyw".toList := by decide +kernel
  have analyzed := ofPatch_of_changes Path.builtInAliases none added deleted
  rw [path] at analyzed
  exact ⟨analyzed, sourced_of_ofPatch Path.builtInAliases analyzed⟩

end Analysis

end PatchSurvey
