import Mathlib.Data.List.Basic
import PatchSurvey.ChangeSet.BoundaryPath
import PatchSurvey.Proofs.Text.Lines
import PatchSurvey.Proofs.Text.Visible

/-! # Reading a boundary line

The last ` b/` of a boundary line stands between the paths wherever the new path
holds none itself. The old path may hold any number of them. -/

namespace PatchSurvey.ChangeSet

/-- What separates the paths on a boundary line. -/
def sideMark : Text :=
  " b/".toList

theorem lastSides?_cons_of_ne {c : Char} (visible : c ≠ ' ') (text : Text) :
    lastSides? (c :: text) = (lastSides? text).map fun (old, new) => (c :: old, new) := by
  have other : Text.after? " b/".toList (c :: text) = none := by
    cases found : Text.after? " b/".toList (c :: text) with
    | none => rfl
    | some rest =>
        have same := Text.after?_eq_some_iff.1 found
        exact absurd (List.cons.inj same).1 visible
  rw [lastSides?, other]
  cases lastSides? text <;> rfl

/-- Without a mark before the last character there is nothing to cut. -/
theorem lastSides?_eq_none {text : Text} (plain : ¬ sideMark <:+: text.dropLast) :
    lastSides? text = none := by
  induction text with
  | nil => rfl
  | cons c text ih =>
      have later : ¬ sideMark <:+: text.dropLast := by
        intro within
        apply plain
        cases text with
        | nil => exact within
        | cons d text => exact within.trans (List.suffix_cons c _).isInfix
      rw [lastSides?, ih later]
      dsimp only
      split
      · rename_i d new found
        have same := Text.after?_eq_some_iff.1 found
        rw [same, List.dropLast_append_of_ne_nil (List.cons_ne_nil d new)] at plain
        exact absurd (List.prefix_append ..).isInfix plain
      · rfl

/-- A cut further behind is the last one. -/
theorem lastSides?_append {text old new : Text} (found : lastSides? text = some (old, new))
    (before : Text) : lastSides? (before ++ text) = some (before ++ old, new) := by
  induction before with
  | nil => exact found
  | cons c before ih => rw [List.cons_append, lastSides?, ih, List.cons_append]

/-- Two paths are cut at the mark between them if the new one has none before its end. -/
theorem lastSides?_sideMark {new : Text} (some : new ≠ []) (plain : ¬ sideMark <:+: new.dropLast)
    (old : Text) : lastSides? (old ++ (sideMark ++ new)) = .some (old, new) := by
  -- no mark begins inside the mark, so none stands further behind
  have behind : lastSides? ('b' :: '/' :: new) = none := by
    rw [lastSides?_cons_of_ne (by decide), lastSides?_cons_of_ne (by decide),
      lastSides?_eq_none plain]
    rfl
  have cut : lastSides? (' ' :: 'b' :: '/' :: new) = .some ([], new) := by
    have here : Text.after? " b/".toList (' ' :: 'b' :: '/' :: new) = .some new :=
      Text.after?_append " b/".toList new
    rw [lastSides?, behind, here]
    cases new with
    | nil => exact absurd rfl some
    | cons c new => rfl
  have whole := lastSides?_append cut old
  rw [List.append_nil] at whole
  exact whole

/-- What stands before the last character does so in a longer text too. -/
theorem infix_dropLast_append {mark text : Text} (within : mark <:+: text.dropLast) (tail : Text) :
    mark <:+: (text ++ tail).dropLast := by
  by_cases ended : tail = []
  · rwa [ended, List.append_nil]
  · have inner := within.trans (List.dropLast_prefix text).isInfix
    rw [List.dropLast_append_of_ne_nil ended]
    exact inner.trans (List.prefix_append ..).isInfix

/-- A mark before the last character is found, or one behind it. -/
theorem exists_lastSides?_of_infix {text : Text} (within : sideMark <:+: text.dropLast) :
    ∃ old new, lastSides? text = some (old, new) := by
  obtain ⟨before, after, inner⟩ := within
  have some : text ≠ [] := by
    rintro rfl
    exact absurd (congrArg List.length inner) (by simp [sideMark])
  have whole : text = before ++ (sideMark ++ (after ++ [text.getLast some])) := by
    rw [← List.append_assoc, ← List.append_assoc, inner, List.dropLast_concat_getLast]
  have next : after ++ [text.getLast some] ≠ [] := by simp
  obtain ⟨c, rest, shape⟩ := List.exists_cons_of_ne_nil next
  have cut : ∃ old new, lastSides? (sideMark ++ (c :: rest)) = .some (old, new) := by
    have here : Text.after? " b/".toList (' ' :: 'b' :: '/' :: c :: rest) = .some (c :: rest) :=
      Text.after?_append " b/".toList _
    change ∃ old new, lastSides? (' ' :: 'b' :: '/' :: c :: rest) = .some (old, new)
    rw [lastSides?, here]
    cases lastSides? ('b' :: '/' :: c :: rest) with
    | none => exact ⟨[], c :: rest, rfl⟩
    | some sides => exact ⟨_, _, rfl⟩
  obtain ⟨old, new, cut⟩ := cut
  rw [whole, shape]
  exact ⟨_, _, lastSides?_append cut before⟩

/-- What is cut stands around the last mark that something follows. -/
theorem eq_append_of_lastSides? {text old new : Text} (cut : lastSides? text = some (old, new)) :
    text = old ++ (sideMark ++ new) ∧ new ≠ [] ∧ ¬ sideMark <:+: new.dropLast := by
  induction text generalizing old with
  | nil => cases cut
  | cons c text ih =>
      rw [lastSides?] at cut
      cases later : lastSides? text with
      | some sides =>
          rw [later] at cut
          cases cut
          obtain ⟨whole, others⟩ := ih later
          exact ⟨congrArg (List.cons c) whole, others⟩
      | none =>
          rw [later] at cut
          dsimp only at cut
          split at cut
          · rename_i d new here
            cases cut
            have whole := Text.after?_eq_some_iff.1 here
            refine ⟨whole, List.cons_ne_nil d new, fun within => ?_⟩
            -- such a mark would have been found before
            obtain ⟨before, after, found⟩ := exists_lastSides?_of_infix within
            have behind : text = "b/".toList ++ d :: new := (List.cons.inj whole).2
            rw [behind, lastSides?_append found "b/".toList] at later
            cases later
          · cases cut

/-- The line that begins the section of a file with these paths. -/
def boundaryLine (old new : Text) : Text :=
  Hunk.boundaryMark ++ ("a/".toList ++ (old ++ (sideMark ++ new)))

theorem isBoundary_boundaryLine (old new : Text) : Hunk.isBoundary (boundaryLine old new) = true :=
  Text.startsWith_iff.2 ⟨_, rfl⟩

theorem getLast?_boundaryLine (old : Text) {new : Text} (some : new ≠ []) :
    (boundaryLine old new).getLast? = new.getLast? := by
  have whole : boundaryLine old new =
      Hunk.boundaryMark ++ "a/".toList ++ old ++ sideMark ++ new := by
    simp only [boundaryLine, List.append_assoc]
  rw [whole, List.getLast?_append_of_ne_nil _ some]

/-- The new path is read up to the blanks that end the line. -/
theorem markedPath?_sideMark {old new blanks : Text} (someOld : old ≠ []) (someNew : new ≠ [])
    (last : new.getLast?.any Text.isBlank = false)
    (plain : ¬ sideMark <:+: (new ++ blanks).dropLast)
    (blank : ∀ c ∈ blanks, Text.isBlank c = true) :
    markedPath? (old ++ (sideMark ++ (new ++ blanks))) = some new := by
  obtain ⟨o, old, rfl⟩ := List.exists_cons_of_ne_nil someOld
  obtain ⟨c, new, rfl⟩ := List.exists_cons_of_ne_nil someNew
  have visible : new.getLast?.any Text.isBlank = false := by
    rw [List.getLast?_cons] at last
    cases found : new.getLast? with
    | none => rfl
    | some d =>
        rw [found] at last
        exact last
  have nothing : Text.trimEnd blanks = [] := by
    rw [Text.trimEnd_eq_nil_iff, Text.HasVisible]
    simpa using blank
  rw [List.cons_append, markedPath?,
    lastSides?_sideMark (List.append_ne_nil_of_left_ne_nil someNew blanks) plain, List.cons_append]
  dsimp only
  rw [Text.trimEnd_append visible, nothing, List.append_nil]

/-- Only the first line of a patch is looked at. -/
theorem boundaryPath?_line_append {line : Text} (plain : '\n' ∉ line) (rest : Text) :
    boundaryPath? (line ++ '\n' :: rest) = boundaryPath? line := by
  have first : (line ++ '\n' :: rest).takeWhile (· ≠ '\n') = line :=
    Text.takeWhile_ne_append plain (by simp)
  have alone : (line ++ []).takeWhile (· ≠ '\n') = line :=
    Text.takeWhile_ne_append plain (by simp)
  rw [List.append_nil] at alone
  simp only [boundaryPath?, first, alone]

/-- The new path is read from a boundary line with blanks at its end. -/
theorem boundaryPath?_boundaryLine_append {old new blanks : Text} (someOld : old ≠ [])
    (someNew : new ≠ []) (unbroken : '\n' ∉ boundaryLine old new ++ blanks)
    (last : new.getLast?.any Text.isBlank = false)
    (plain : ¬ sideMark <:+: (new ++ blanks).dropLast)
    (blank : ∀ c ∈ blanks, Text.isBlank c = true) :
    boundaryPath? (boundaryLine old new ++ blanks) = some new := by
  have first : (boundaryLine old new ++ blanks ++ []).takeWhile (· ≠ '\n') =
      boundaryLine old new ++ blanks :=
    Text.takeWhile_ne_append unbroken (by simp)
  rw [List.append_nil] at first
  have kept : Text.dropReturn (boundaryLine old new ++ blanks) =
      boundaryLine old new ++ Text.dropReturn blanks := by
    apply Text.dropReturn_append
    rw [getLast?_boundaryLine old someNew]
    intro ended
    rw [ended] at last
    exact absurd last (by decide)
  have after : Text.after? (Hunk.boundaryMark ++ "a/".toList)
      (boundaryLine old new ++ Text.dropReturn blanks) =
      some (old ++ (sideMark ++ (new ++ Text.dropReturn blanks))) := by
    rw [Text.after?_eq_some_iff]
    simp only [boundaryLine, List.append_assoc]
  obtain ⟨tail, whole⟩ := Text.eq_dropReturn_append blanks
  have path : markedPath? (old ++ (sideMark ++ (new ++ Text.dropReturn blanks))) = some new := by
    apply markedPath?_sideMark someOld someNew last
    · intro within
      apply plain
      rw [whole, ← List.append_assoc]
      exact infix_dropLast_append within tail
    · intro c mem
      apply blank
      rw [whole]
      exact List.mem_append_left tail mem
  simp only [boundaryPath?, first, kept, after, Option.bind_some, path]

/-- The new path is read from the boundary line of a patch. -/
theorem boundaryPath?_boundaryLine {old new : Text} (someOld : old ≠ []) (someNew : new ≠ [])
    (unbroken : '\n' ∉ boundaryLine old new)
    (last : new.getLast?.any Text.isBlank = false)
    (plain : ¬ sideMark <:+: new.dropLast) (rest : Text) :
    boundaryPath? (boundaryLine old new ++ '\n' :: rest) = some new := by
  rw [boundaryPath?_line_append unbroken, ← List.append_nil (boundaryLine old new)]
  rw [← List.append_nil (boundaryLine old new)] at unbroken
  rw [← List.append_nil new] at plain
  exact boundaryPath?_boundaryLine_append someOld someNew unbroken last plain (by simp)

/-! ## Characters of the path -/

theorem subset_of_lastSides? {text old new : Text} (cut : lastSides? text = some (old, new)) :
    new ⊆ text := by
  rw [(eq_append_of_lastSides? cut).1, ← List.append_assoc]
  exact List.subset_append_right _ _

theorem subset_of_markedPath? {text path : Text} (found : markedPath? text = some path) :
    path ⊆ text := by
  rw [markedPath?.eq_def] at found
  split at found
  · cases found
  · rename_i c text
    split at found
    · rename_i d new cut
      cases found
      have kept : d :: Text.trimEnd new ⊆ d :: new :=
        List.cons_subset_cons d (Text.trimEnd_isPrefix new).subset
      exact List.Subset.trans (List.Subset.trans kept (subset_of_lastSides? cut))
        (List.subset_cons_self c text)
    · cases found

theorem subset_of_barePath? {text path : Text} (found : barePath? text = some path) :
    path ⊆ text := by
  simp only [barePath?] at found
  split at found
  · rename_i rest _ behind
    split at found
    · cases found
    · split at found
      · cases found
        have left : rest ⊆ ' ' :: rest := List.subset_cons_self ..
        rw [← behind] at left
        have taken := List.Subset.trans (List.takeWhile_prefix fun c => !Text.isBlank c).subset left
        exact List.Subset.trans taken (List.dropWhile_suffix _).subset
      · cases found
  · cases found

/-- The path of a boundary line is a part of the first line of the patch. -/
theorem newline_not_mem_of_boundaryPath? {patch path : Text}
    (found : boundaryPath? patch = some path) : '\n' ∉ path := by
  have unbroken : '\n' ∉ Text.dropReturn (patch.takeWhile (· ≠ '\n')) := by
    intro feed
    obtain ⟨tail, whole⟩ := Text.eq_dropReturn_append (patch.takeWhile (· ≠ '\n'))
    have inner := List.mem_append_left tail feed
    rw [← whole] at inner
    simpa using List.all_eq_true.1 List.all_takeWhile _ inner
  have behind {mark rest : Text}
      (cut : Text.after? mark (Text.dropReturn (patch.takeWhile (· ≠ '\n'))) = some rest) :
      '\n' ∉ rest := by
    intro feed
    apply unbroken
    rw [Text.after?_eq_some_iff.1 cut]
    exact List.mem_append_right mark feed
  simp only [boundaryPath?] at found
  split at found
  · rename_i marked
    cases found
    obtain ⟨rest, cut, marked⟩ := Option.bind_eq_some_iff.1 marked
    exact fun feed => behind cut (subset_of_markedPath? marked feed)
  · obtain ⟨rest, cut, bare⟩ := Option.bind_eq_some_iff.1 found
    exact fun feed => behind cut (subset_of_barePath? bare feed)

end PatchSurvey.ChangeSet
