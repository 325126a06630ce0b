import Mathlib.Data.List.Basic
import PatchSurvey.Analysis.Batch
import PatchSurvey.Proofs.Analysis.Patch

/-! # Files of a batch by themselves

What is reported and logged about a file depends on this file alone. The report of
a batch is put together from its files in order, so that none can disturb another. -/

namespace PatchSurvey

open Hunk

namespace PatchInput

/-- Why a patch has no analysis: it is no text, or a number in it is too long. -/
def refusal? : PatchInput → Option Text
  | other typeName => some ("Patch must be a str, got ".toList ++ typeName)
  | text patch => (overlong? patch).map fun digits =>
      "ValueError: ".toList ++ NumeralTooLong.message ⟨digits.length⟩

/-- The patch is no text, or one of its lines is a hunk header with a number that is too long. -/
def Malformed (input : PatchInput) : Prop :=
  (∃ typeName, input = other typeName) ∨
    ∃ patch, input = text patch ∧ ∃ line ∈ Text.lines patch,
      ∃ written, HeaderText.read? line = some written ∧
        ∃ digits ∈ written.numerals, numeralLimit < digits.length

theorem isSome_refusal?_iff {input : PatchInput} : input.refusal?.isSome ↔ input.Malformed := by
  cases input with
  | other typeName => simp [refusal?, Malformed]
  | text patch =>
      simp only [refusal?, Malformed, Option.isSome_map, overlong?, numerals, List.find?_isSome,
        List.mem_flatMap, Option.mem_toList, isOverlong, decide_eq_true_eq, reduceCtorEq,
        exists_false, false_or, text.injEq, exists_eq_left']
      constructor
      · rintro ⟨digits, ⟨line, mem, written, read, among⟩, long⟩
        exact ⟨line, mem, written, read, digits, among, long⟩
      · rintro ⟨line, mem, written, read, digits, among, long⟩
        exact ⟨digits, ⟨line, mem, written, read, among⟩, long⟩

end PatchInput

namespace FilePatch

variable (aliases : Path.Aliases) (file : FilePatch)

/-- The analysis of the file by itself. -/
def analysis? : Option Analysis :=
  (Analysis.ofPatch aliases file.patch (some file.filename)).toOption.map (·.value)

theorem exists_ofPatch_of_analysis? {aliases : Path.Aliases} {file : FilePatch}
    {analysis : Analysis} (made : file.analysis? aliases = some analysis) :
    ∃ logged, Analysis.ofPatch aliases file.patch (some file.filename) = .ok logged ∧
      logged.value = analysis := by
  rw [analysis?] at made
  cases outcome : Analysis.ofPatch aliases file.patch (some file.filename) with
  | error error =>
      rw [outcome] at made
      cases made
  | ok logged =>
      rw [outcome] at made
      exact ⟨logged, rfl, Option.some.inj made⟩

/-- The entry of the file among the skipped ones. -/
def skipped? : Option SkippedFile :=
  file.patch.refusal?.map fun reason => ⟨file.filename, reason, file.status⟩

/-- What is logged about a file without an analysis. -/
def refusalEvent : Event :=
  match file.patch with
  | .other typeName =>
      .skipped file.filename file.status ("Patch must be a str, got ".toList ++ typeName)
  | .text _ => .failed file.filename file.status

/-- What is logged about the file by itself. -/
def events : List Event :=
  match Analysis.ofPatch aliases file.patch (some file.filename) with
  | .ok logged => logged.events
  | .error _ => [file.refusalEvent]

/-- A file is analyzed, or it is skipped. -/
inductive Fate : Prop
  | analyzed (analysis : Analysis) (made : file.analysis? aliases = some analysis)
      (kept : file.skipped? = none)
      (outcome : BatchReport.outcome aliases file = ⟨.ok analysis, file.events aliases⟩)
  | skipped (entry : SkippedFile) (unmade : file.analysis? aliases = none)
      (skipped : file.skipped? = some entry)
      (outcome : BatchReport.outcome aliases file = ⟨.error entry, file.events aliases⟩)

theorem fate : file.Fate aliases := by
  obtain ⟨filename, patch, status⟩ := file
  cases patch with
  | other typeName => exact .skipped _ rfl rfl rfl
  | text patch =>
      cases long : overlong? patch with
      | some digits =>
          have refused := Analysis.ofPatch_of_overlong? aliases (some filename) long
          apply Fate.skipped
          · rw [analysis?, refused]
            rfl
          · rw [skipped?, PatchInput.refusal?, long]
            rfl
          · rw [BatchReport.outcome, events, refused]
            rfl
      | none =>
          have readable := overlong?_eq_none_iff.1 long
          obtain ⟨logged, analyzed⟩ :=
            Analysis.exists_ofPatch_eq_ok aliases (some filename) readable
          apply Fate.analyzed logged.value
          · rw [analysis?, analyzed]
            rfl
          · rw [skipped?, PatchInput.refusal?, long]
            rfl
          · rw [BatchReport.outcome, events, analyzed]
            rfl

/-- A file is skipped exactly if it has no analysis. -/
theorem isSome_skipped?_iff : file.skipped?.isSome ↔ file.analysis? aliases = none := by
  cases file.fate aliases with
  | analyzed analysis made kept _ => simp [made, kept]
  | skipped entry unmade skipped _ => simp [unmade, skipped]

/-- The end of a batch is not logged with any of its files. -/
theorem batchFinished_not_mem_events (analyzed skipped : Nat) :
    .batchFinished analyzed skipped ∉ file.events aliases := by
  intro mem
  rw [events] at mem
  split at mem
  · rename_i logged analyzed
    obtain ⟨text, added, deleted, -, -, -, rfl⟩ :=
      Analysis.eq_ofChanges_of_ofPatch aliases _ analyzed
    rcases Analysis.mem_events_ofChanges aliases mem with ⟨key, check, same⟩ | ⟨count, same⟩
    · cases same
    · cases same
  · have same := List.mem_singleton.1 mem
    rw [refusalEvent] at same
    split at same
    · cases same
    · cases same

end FilePatch

namespace BatchReport

variable (aliases : Path.Aliases)

theorem results_ofFiles (files : List FilePatch) :
    (ofFiles aliases files).value.results = files.filterMap (FilePatch.analysis? aliases) := by
  simp only [ofFiles, Logged.gather, ofOutcomes, List.map_map, List.filterMap_map]
  apply List.filterMap_congr
  intro file _
  cases file.fate aliases with
  | analyzed analysis made _ outcome => simp [made, outcome]
  | skipped entry unmade _ outcome => simp [unmade, outcome]

theorem skipped_ofFiles (files : List FilePatch) :
    (ofFiles aliases files).value.skipped = files.filterMap FilePatch.skipped? := by
  simp only [ofFiles, Logged.gather, ofOutcomes, List.map_map, List.filterMap_map]
  apply List.filterMap_congr
  intro file _
  cases file.fate aliases with
  | analyzed analysis _ kept outcome => simp [kept, outcome]
  | skipped entry _ skipped outcome => simp [skipped, outcome]

theorem events_ofFiles (files : List FilePatch) :
    (ofFiles aliases files).events = files.flatMap (FilePatch.events aliases) ++
      [.batchFinished (ofFiles aliases files).value.results.length
        (ofFiles aliases files).value.skipped.length] := by
  have each : (Logged.gather (files.map (outcome aliases))).events =
      files.flatMap (FilePatch.events aliases) := by
    rw [Logged.gather, List.flatMap_map]
    apply List.flatMap_congr
    intro file _
    cases file.fate aliases with
    | analyzed analysis _ _ outcome => rw [outcome]
    | skipped entry _ _ outcome => rw [outcome]
  rw [ofFiles, each]

/-- A file is either analyzed or skipped. -/
theorem length_results_add_length_skipped (files : List FilePatch) :
    (ofFiles aliases files).value.results.length +
      (ofFiles aliases files).value.skipped.length = files.length := by
  rw [results_ofFiles, skipped_ofFiles]
  induction files with
  | nil => rfl
  | cons file files ih =>
      cases file.fate aliases with
      | analyzed analysis made kept _ =>
          rw [List.filterMap_cons_some made, List.filterMap_cons_none kept, List.length_cons,
            List.length_cons]
          omega
      | skipped entry unmade skipped _ =>
          rw [List.filterMap_cons_none unmade, List.filterMap_cons_some skipped, List.length_cons,
            List.length_cons]
          omega

/-- Every file is analyzed as it is by itself, or it is skipped because it cannot be, for the
reason that its own patch gives. Analyses and skipped files stand in input order, and so do the
logs of the files, before one last entry that counts both. -/
theorem ofFiles_isolated (files : List FilePatch) :
    (ofFiles aliases files).value =
        ⟨files.filterMap (FilePatch.analysis? aliases), files.filterMap FilePatch.skipped?⟩ ∧
      (∀ file : FilePatch, (file.skipped?.isSome ↔ file.analysis? aliases = none) ∧
        (file.skipped?.isSome ↔ file.patch.Malformed)) ∧
      (∀ more, (ofFiles aliases (files ++ more)).value =
        ⟨(ofFiles aliases files).value.results ++ (ofFiles aliases more).value.results,
          (ofFiles aliases files).value.skipped ++ (ofFiles aliases more).value.skipped⟩) ∧
      (ofFiles aliases files).value.results.length +
        (ofFiles aliases files).value.skipped.length = files.length ∧
      (ofFiles aliases files).events = files.flatMap (FilePatch.events aliases) ++
        [.batchFinished (ofFiles aliases files).value.results.length
          (ofFiles aliases files).value.skipped.length] ∧
      ∀ analyzed skipped,
        .batchFinished analyzed skipped ∉ files.flatMap (FilePatch.events aliases) := by
  have report (files : List FilePatch) : (ofFiles aliases files).value =
      ⟨files.filterMap (FilePatch.analysis? aliases), files.filterMap FilePatch.skipped?⟩ := by
    rw [← results_ofFiles, ← skipped_ofFiles]
  refine ⟨report files, ?_, ?_, length_results_add_length_skipped aliases files,
    events_ofFiles aliases files, ?_⟩
  · intro file
    refine ⟨file.isSome_skipped?_iff aliases, ?_⟩
    rw [FilePatch.skipped?, Option.isSome_map]
    exact PatchInput.isSome_refusal?_iff
  · intro more
    rw [report (files ++ more), List.filterMap_append, List.filterMap_append, results_ofFiles,
      results_ofFiles, skipped_ofFiles, skipped_ofFiles]
  · intro analyzed skipped mem
    obtain ⟨file, _, mem⟩ := List.mem_flatMap.1 mem
    exact file.batchFinished_not_mem_events aliases analyzed skipped mem

end BatchReport

end PatchSurvey
