import PatchSurvey.Analysis.Patch
import PatchSurvey.Proofs.Hunk.Overlong

/-! # Patches with an analysis

A text has an analysis exactly if its hunk headers are readable. Otherwise the
first number that is too long is reported, and of a value that is no text the
name of its type. -/

namespace PatchSurvey.Analysis

open Hunk

variable (aliases : Path.Aliases) (hint : Option Text)

/-- The analysis is made from the changes of both sides. -/
theorem ofPatch_of_changes {patch : Text} {added deleted : List ChangedLine}
    (h₁ : changes .added patch = .ok added) (h₂ : changes .removed patch = .ok deleted) :
    ofPatch aliases (.text patch) hint =
      .ok (ofChanges aliases (pathOf patch hint) added deleted) := by
  rw [ofPatch, ofText, h₁, h₂]
  rfl

theorem ofPatch_of_overlong? {patch digits : Text} (first : overlong? patch = some digits) :
    ofPatch aliases (.text patch) hint = .error (.numeralTooLong ⟨digits.length⟩) := by
  rw [ofPatch, ofText, changes_of_overlong? .added first]
  rfl

/-- If the changes of one side are refused, the analysis is refused for the same reason. -/
theorem ofPatch_of_refused {side : Side} {patch : Text} {fault : NumeralTooLong}
    (refused : changes side patch = .error fault) :
    ofPatch aliases (.text patch) hint = .error (.numeralTooLong fault) := by
  obtain ⟨digits, first, rfl⟩ := changes_eq_error_iff.1 refused
  exact ofPatch_of_overlong? aliases hint first

theorem exists_ofPatch_eq_ok {patch : Text} (readable : Readable patch) :
    ∃ logged, ofPatch aliases (.text patch) hint = .ok logged := by
  obtain ⟨added, h₁⟩ := exists_changes_eq_ok .added readable
  obtain ⟨deleted, h₂⟩ := exists_changes_eq_ok .removed readable
  exact ⟨_, ofPatch_of_changes aliases hint h₁ h₂⟩

/-- Whatever is analyzed is a text, and its analysis is made from its changes. -/
theorem eq_ofChanges_of_ofPatch {patch : PatchInput} {logged : Logged Analysis}
    (analyzed : ofPatch aliases patch hint = .ok logged) :
    ∃ text added deleted, patch = .text text ∧ changes .added text = .ok added ∧
      changes .removed text = .ok deleted ∧
      logged = ofChanges aliases (pathOf text hint) added deleted := by
  cases patch with
  | other typeName => cases analyzed
  | text patch =>
      cases h₁ : changes .added patch with
      | error fault =>
          rw [ofPatch_of_refused aliases hint h₁] at analyzed
          cases analyzed
      | ok added =>
          cases h₂ : changes .removed patch with
          | error fault =>
              rw [ofPatch_of_refused aliases hint h₂] at analyzed
              cases analyzed
          | ok deleted =>
              rw [ofPatch_of_changes aliases hint h₁ h₂] at analyzed
              exact ⟨patch, added, deleted, rfl, h₁, h₂, (Except.ok.inj analyzed).symm⟩

theorem mem_events_find {check : Check} {key : Text} {added : List ChangedLine} {event : Event}
    (mem : event ∈ (check.find key added).events) : event = .noPatterns key check := by
  rw [Check.find] at mem
  cases found : Language.ofTag? key with
  | some language =>
      rw [found] at mem
      cases mem
  | none =>
      rw [found] at mem
      exact List.mem_singleton.1 mem

/-- Only missing tables and the analysis itself are logged. -/
theorem mem_events_ofChanges {path : Option Text} {added deleted : List ChangedLine} {event : Event}
    (mem : event ∈ (ofChanges aliases path added deleted).events) :
    (∃ key check, event = .noPatterns key check) ∨
      ∃ functions, event =
        .analyzed path (languageOf path) added.length deleted.length functions := by
  rw [ofChanges] at mem
  rcases List.mem_append.1 mem with checked | last
  · left
    rcases List.mem_append.1 checked with checked | tests
    · rcases List.mem_append.1 checked with functions | imports
      · exact ⟨_, _, mem_events_find functions⟩
      · exact ⟨_, _, mem_events_find imports⟩
    · exact ⟨_, _, mem_events_find tests⟩
  · right
    exact ⟨_, List.mem_singleton.1 last⟩

/-- A readable text has an analysis. Any other value has none, for the reason that is given. -/
theorem exists_ofPatch_eq_ok_and_error_iff (patch : PatchInput) :
    ((∃ logged, ofPatch aliases patch hint = .ok logged) ↔
        ∃ text, patch = .text text ∧ Readable text) ∧
      ∀ error, ofPatch aliases patch hint = .error error ↔
        (∃ typeName, patch = .other typeName ∧ error = .notText typeName) ∨
          ∃ text digits, patch = .text text ∧ overlong? text = some digits ∧
            error = .numeralTooLong ⟨digits.length⟩ := by
  cases patch with
  | other typeName => simp [ofPatch, eq_comm]
  | text patch =>
      cases long : overlong? patch with
      | some digits =>
          have unreadable : ¬ Readable patch := by
            rw [← overlong?_eq_none_iff, long]
            exact Option.some_ne_none digits
          simp [ofPatch_of_overlong? aliases hint long, unreadable, long, eq_comm]
      | none =>
          have readable := overlong?_eq_none_iff.1 long
          obtain ⟨logged, analyzed⟩ := exists_ofPatch_eq_ok aliases hint readable
          simp [analyzed, readable, long]

/-- The header `@@ -1 +11…1 @@` whose new start has one digit more than can be read. -/
def overlongHeader : HeaderText where
  old := ⟨['1'], none⟩
  new := ⟨List.replicate 4301 '1', none⟩

/-- This header alone is a text without an analysis. -/
theorem ofPatch_overlongHeader :
    ofPatch Path.builtInAliases (.text overlongHeader.write) none =
      .error (.numeralTooLong ⟨4301⟩) := by
  have length : overlongHeader.new.start.length = 4301 := List.length_replicate
  have one : IsDigits overlongHeader.old.start :=
    ⟨List.cons_ne_nil _ _, List.forall_mem_singleton.2 rfl⟩
  have ones : IsDigits overlongHeader.new.start :=
    ⟨List.cons_ne_nil _ _, fun _ mem => List.eq_of_mem_replicate mem ▸ rfl⟩
  have uncounted (count : Text) (mem : count ∈ (none : Option Text)) : IsDigits count :=
    absurd mem (Option.not_mem_none count)
  have long : isOverlong overlongHeader.new.start = true := by
    rw [isOverlong, length]
    rfl
  have first : overlong? overlongHeader.write = some overlongHeader.new.start := by
    rw [overlong?_write ⟨⟨one, uncounted⟩, ⟨ones, uncounted⟩⟩, HeaderText.numerals]
    exact List.find?_cons_of_pos long
  rw [ofPatch_of_overlong? Path.builtInAliases none first, length]

end PatchSurvey.Analysis
