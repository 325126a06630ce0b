import PatchSurvey.Path.Language
import PatchSurvey.Proofs.Path.Lockstep
import PatchSurvey.Proofs.Text.Case
import PatchSurvey.Proofs.Text.Visible

/-! # Characters of paths and tags

The path of a patch is cut from one line, and a language tag is cut from the base
name of a path. A path is not broken by a line feed, nor is its tag, and no tag
holds a slash. -/

namespace PatchSurvey.Path

/-! ## Paths -/

/-- A path is a part of the rest of its line. -/
theorem subset_of_ofTargetLine {tail path : Text} (found : ofTargetLine tail = some path) :
    path ⊆ tail := by
  intro c mem
  rw [ofTargetLine] at found
  split at found
  · cases found
  · obtain rfl := Option.some.inj found
    have kept := Text.mem_of_mem_dropMark (Text.mem_of_mem_trim mem)
    exact (List.takeWhile_prefix _).subset (Text.mem_of_mem_trim kept)

theorem subset_of_found? {inHeader : Bool} {line tail : Text}
    (found : found? inHeader line = some tail) : tail ⊆ line := by
  intro c mem
  rw [found?] at found
  split at found
  · have whole := Text.after?_eq_some_iff.1 found
    exact Text.mem_of_mem_trim (whole ▸ List.mem_append_right _ mem)
  · cases found

/-- A search finds a part of one of its lines. -/
theorem exists_mem_of_targetAmong? {inHeader : Bool} {lines : List Text} {path : Text}
    (found : targetAmong? inHeader lines = some path) : ∃ line ∈ lines, path ⊆ line := by
  induction lines generalizing inHeader with
  | nil => cases found
  | cons line lines ih =>
      rw [targetAmong?_cons] at found
      cases here : found? inHeader line with
      | some tail =>
          rw [here] at found
          have cut := List.Subset.trans (subset_of_ofTargetLine found) (subset_of_found? here)
          exact ⟨line, List.mem_cons_self .., cut⟩
      | none =>
          rw [here] at found
          obtain ⟨later, mem, cut⟩ := ih found
          exact ⟨later, List.mem_cons_of_mem _ mem, cut⟩

theorem newline_not_mem_of_target? {patch path : Text} (found : target? patch = some path) :
    '\n' ∉ path := by
  obtain ⟨line, mem, cut⟩ := exists_mem_of_targetAmong? found
  exact fun feed => Text.newline_not_mem_of_mem_lines mem (cut feed)

/-! ## Tags -/

theorem not_mem_of_splitLast? {mark : Char} {text : Text} (uncut : splitLast? mark text = none) :
    mark ∉ text := by
  induction text with
  | nil => exact List.not_mem_nil
  | cons c text ih =>
      rw [splitLast?] at uncut
      cases later : splitLast? mark text with
      | some parts => rw [later] at uncut; cases uncut
      | none =>
          rw [later] at uncut
          have other : c ≠ mark := fun same => by simp [same] at uncut
          exact List.not_mem_cons_of_ne_of_not_mem other.symm (ih later)

/-- A text is cut at the last mark. -/
theorem eq_append_of_splitLast? {mark : Char} {text before after : Text}
    (cut : splitLast? mark text = some (before, after)) :
    text = before ++ mark :: after ∧ mark ∉ after := by
  induction text generalizing before with
  | nil => cases cut
  | cons c text ih =>
      rw [splitLast?] at cut
      cases later : splitLast? mark text with
      | some parts =>
          rw [later] at cut
          cases cut
          obtain ⟨whole, last⟩ := ih later
          exact ⟨by rw [List.cons_append, ← whole], last⟩
      | none =>
          rw [later] at cut
          by_cases same : c = mark
          · rw [if_pos same] at cut
            cases cut
            exact ⟨by rw [same, List.nil_append], not_mem_of_splitLast? later⟩
          · rw [if_neg same] at cut
            cases cut

theorem slash_not_mem_baseName (path : Text) : '/' ∉ baseName path := by
  rw [baseName]
  cases cut : splitLast? '/' path with
  | none => exact not_mem_of_splitLast? cut
  | some parts => exact (eq_append_of_splitLast? cut).2

theorem baseName_subset (path : Text) : baseName path ⊆ path := by
  rw [baseName]
  cases cut : splitLast? '/' path with
  | none => exact List.Subset.refl path
  | some parts =>
      obtain ⟨before, base⟩ := parts
      rw [(eq_append_of_splitLast? cut).1]
      exact fun c mem => List.mem_append_right before (List.mem_cons_of_mem _ mem)

/-- The marks of a tag stand in the base name. -/
theorem mem_baseName_of_mem_languageOf {path : Text} {c : Char} (uncased : Text.IsUncased c)
    (mem : c ∈ languageOf path) : c ∈ baseName path := by
  rw [languageOf] at mem
  split at mem
  · rename_i d extension cut
    rw [(eq_append_of_splitLast? cut).1]
    exact List.mem_append_right _ (List.mem_cons_of_mem _ (Text.mem_of_mem_lower uncased mem))
  · have cased : unknownLanguage.all (fun c => !decide (Text.IsUncased c)) = true := by decide
    have letter := List.all_eq_true.1 cased c mem
    simp [uncased] at letter

theorem slash_not_mem_languageOf (path : Text) : '/' ∉ languageOf path :=
  fun slash => slash_not_mem_baseName path (mem_baseName_of_mem_languageOf (by decide) slash)

theorem newline_not_mem_languageOf {path : Text} (plain : '\n' ∉ path) :
    '\n' ∉ languageOf path :=
  fun feed => plain (baseName_subset path (mem_baseName_of_mem_languageOf (by decide) feed))

end PatchSurvey.Path
