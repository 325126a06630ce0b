import Mathlib.Data.Bool.AllAny
import PatchSurvey.Proofs.ChangeSet.BoundaryPath

/-! # What a boundary line can name

A boundary line may be the line of several pairs of paths. It is read with the
longest old path, so that the new path is what follows the last side mark. An
unchanged path that holds such a mark itself is cut there. Without side marks the
only blank of the line stands between the paths. -/

namespace PatchSurvey.ChangeSet

/-- The path of a patch is that of its first line. -/
theorem boundaryPath?_of_head?_lines {patch line : Text}
    (first : (Text.lines patch).head? = some line) : boundaryPath? patch = boundaryPath? line := by
  induction patch using Text.line_induction with
  | last only plain =>
      rw [Text.lines_of_not_mem plain, List.head?_cons] at first
      rw [Option.some.inj first]
  | cons only rest plain _ =>
      rw [Text.lines_line_append plain, List.head?_cons] at first
      rw [boundaryPath?_line_append plain, Option.some.inj first]

theorem newline_not_mem_of_head?_lines {patch line : Text}
    (first : (Text.lines patch).head? = some line) : '\n' ∉ line :=
  Text.newline_not_mem_of_mem_lines (List.mem_of_head? first)

/-! ## An unchanged path -/

/-- A line whose new path is given with a mark in it is also the line of a longer old path. -/
theorem boundaryLine_append (old before after : Text) :
    boundaryLine old (before ++ (sideMark ++ after)) =
      boundaryLine (old ++ (sideMark ++ before)) after := by
  simp only [boundaryLine, List.append_assoc]

/-- The boundary line of a path that does not change names it whole exactly if no side mark stands
in it before its last character. Otherwise it names what follows the last such mark. -/
theorem boundaryPath?_unchanged {path : Text} (some : path ≠ []) (unbroken : '\n' ∉ path)
    (visible : path.Visible) (rest : Text) :
    (boundaryPath? (boundaryLine path path ++ '\n' :: rest) = .some path ↔
      ¬ sideMark <:+: path.dropLast) ∧
    ∀ before after, path = before ++ (sideMark ++ after) → after ≠ [] →
      ¬ sideMark <:+: after.dropLast →
      boundaryPath? (boundaryLine path path ++ '\n' :: rest) = .some after := by
  have line : '\n' ∉ boundaryLine path path := by
    have marks : '\n' ∉ Hunk.boundaryMark ∧ '\n' ∉ "a/".toList ∧ '\n' ∉ sideMark := by decide
    simp only [boundaryLine, List.mem_append, not_or]
    exact ⟨marks.1, marks.2.1, unbroken, marks.2.2, unbroken⟩
  have cut (before after : Text) (whole : path = before ++ (sideMark ++ after))
      (behind : after ≠ []) (plain : ¬ sideMark <:+: after.dropLast) :
      boundaryPath? (boundaryLine path path ++ '\n' :: rest) = .some after := by
    have same : boundaryLine path path = boundaryLine (path ++ (sideMark ++ before)) after := by
      rw [← boundaryLine_append, ← whole]
    have last : after.getLast?.any Text.isBlank = false := by
      have last := visible.last
      rwa [whole, ← List.append_assoc, List.getLast?_append_of_ne_nil _ behind] at last
    rw [same] at line ⊢
    exact boundaryPath?_boundaryLine (List.append_ne_nil_of_left_ne_nil some _) behind line last
      plain rest
  refine ⟨⟨fun named within => ?_, ?_⟩, cut⟩
  · obtain ⟨before, after, found⟩ := exists_lastSides?_of_infix within
    obtain ⟨whole, behind, plain⟩ := eq_append_of_lastSides? found
    rw [cut before after whole behind plain, Option.some.injEq] at named
    have longer := congrArg List.length whole
    rw [← named] at longer
    have mark : sideMark.length = 3 := by decide
    rw [List.length_append, List.length_append, mark] at longer
    omega
  · intro plain
    exact boundaryPath?_boundaryLine some some line visible.last plain rest

/-- A directory whose name ends with ` b` cuts a path that does not change. The line is also that of
a file that is moved to the rest of the path. -/
theorem boundaryPath?_unchanged_spacedDirectory :
    "x b/y".toList ≠ [] ∧ '\n' ∉ "x b/y".toList ∧ Text.Visible "x b/y".toList ∧
      boundaryLine "x b/y".toList "x b/y".toList = "diff --git a/x b/y b/x b/y".toList ∧
      boundaryLine "x b/y b/x".toList "y".toList = "diff --git a/x b/y b/x b/y".toList ∧
      boundaryPath? "diff --git a/x b/y b/x b/y\n+x".toList ≠ some "x b/y".toList :=
  ⟨by decide, by decide, by decide, by decide +kernel, by decide +kernel, by decide +kernel⟩

/-- Blanks and directories named `b` are kept, and a mark is a part of the path if it ends it. Other
marks cut the path. -/
theorem boundaryPath?_unchanged_blanks :
    "b/my file b/".toList ≠ [] ∧ '\n' ∉ "b/my file b/".toList ∧
      Text.Visible "b/my file b/".toList ∧ ¬ sideMark <:+: "b/my file b/".toList.dropLast ∧
      boundaryPath? "diff --git a/b/my file b/ b/b/my file b/\n".toList =
        some "b/my file b/".toList ∧
      "x b/y b/ z".toList ≠ [] ∧ '\n' ∉ "x b/y b/ z".toList ∧ Text.Visible "x b/y b/ z".toList ∧
      "x b/y b/ z".toList = "x b/y".toList ++ (sideMark ++ " z".toList) ∧
      " z".toList ≠ [] ∧ ¬ sideMark <:+: " z".toList.dropLast ∧
      boundaryPath? "diff --git a/x b/y b/ z b/x b/y b/ z\n".toList = some " z".toList := by
  have kept : "b/my file b/".toList ≠ [] ∧ '\n' ∉ "b/my file b/".toList ∧
      Text.Visible "b/my file b/".toList ∧ ¬ sideMark <:+: "b/my file b/".toList.dropLast := by
    decide +kernel
  have marked : "x b/y b/ z".toList ≠ [] ∧ '\n' ∉ "x b/y b/ z".toList ∧
      Text.Visible "x b/y b/ z".toList := by
    decide +kernel
  have whole : "x b/y b/ z".toList = "x b/y".toList ++ (sideMark ++ " z".toList) := by decide
  have behind : " z".toList ≠ [] ∧ ¬ sideMark <:+: " z".toList.dropLast := by
    decide +kernel
  exact ⟨kept.1, kept.2.1, kept.2.2.1, kept.2.2.2,
    (boundaryPath?_unchanged kept.1 kept.2.1 kept.2.2.1 []).1.2 kept.2.2.2,
    marked.1, marked.2.1, marked.2.2, whole, behind.1, behind.2,
    (boundaryPath?_unchanged marked.1 marked.2.1 marked.2.2 []).2 _ _ whole behind.1 behind.2⟩

/-! ## A moved file, and lines without side marks -/

theorem not_infix_dropLast {text : Text} (plain : ¬ sideMark <:+: text) :
    ¬ sideMark <:+: text.dropLast :=
  fun within => plain (within.trans (List.dropLast_prefix text).isInfix)

/-- Blanks at the end of a line complete no mark. -/
theorem not_infix_append_blanks {new blanks : Text} (plain : ¬ sideMark <:+: new)
    (blank : ∀ c ∈ blanks, Text.isBlank c = true) : ¬ sideMark <:+: new ++ blanks := by
  rintro ⟨before, after, whole⟩
  rcases List.append_eq_append_iff.1 whole with ⟨rest, inner, -⟩ | ⟨rest, ended, among⟩
  · exact plain ⟨before, rest, inner.symm⟩
  · have slash : '/' ∈ rest ∨ rest = [] := by
      rcases List.eq_nil_or_concat rest with none | ⟨rest, c, rfl⟩
      · exact .inr none
      · have last := congrArg List.getLast? ended
        rw [List.concat_eq_append, ← List.append_assoc, List.getLast?_concat,
          List.getLast?_append_of_ne_nil _ (by decide)] at last
        obtain rfl : '/' = c := Option.some.inj last
        exact .inl (by simp)
    rcases slash with slash | rfl
    · have seen := blank '/' (among ▸ List.mem_append_left after slash)
      exact absurd seen (by decide)
    · rw [List.append_nil] at ended
      exact plain ⟨before, [], by rw [ended, List.append_nil]⟩

/-- Two paths without blanks are told apart by the blank between them. -/
theorem barePath?_append {old new : Text} (someOld : old ≠ [])
    (visibleOld : ∀ c ∈ old, Text.isBlank c = false) (someNew : new ≠ [])
    (visibleNew : ∀ c ∈ new, Text.isBlank c = false) :
    barePath? (old ++ ' ' :: new) = some new := by
  have blank : Text.isBlank ' ' = true := by decide
  have first : (old ++ ' ' :: new).takeWhile (fun c => !Text.isBlank c) = old ∧
      (old ++ ' ' :: new).dropWhile (fun c => !Text.isBlank c) = ' ' :: new := by
    have kept : ∀ c ∈ old, (!Text.isBlank c) = true := by simpa using visibleOld
    rw [List.takeWhile_append_of_pos kept, List.dropWhile_append_of_pos kept]
    simp [blank]
  have second : new.takeWhile (fun c => !Text.isBlank c) = new ∧
      new.dropWhile (fun c => !Text.isBlank c) = [] := by
    rw [List.takeWhile_eq_self_iff, List.dropWhile_eq_nil_iff]
    simpa using visibleNew
  obtain ⟨o, old, rfl⟩ := List.exists_cons_of_ne_nil someOld
  obtain ⟨n, new, rfl⟩ := List.exists_cons_of_ne_nil someNew
  simp only [barePath?, first, second, List.all_nil, if_true]

/-- Paths without blanks hold no side mark. -/
theorem not_infix_of_visible {new : Text} (visible : ∀ c ∈ new, Text.isBlank c = false) :
    ¬ sideMark <:+: new :=
  fun within => Text.not_mem_of_isBlank (by decide) visible (within.subset (a := ' ') (by decide))

/-- The line with two paths as they are. -/
def bareLine (old new : Text) : Text :=
  Hunk.boundaryMark ++ (old ++ ' ' :: new)

/-- The paths begin with the marks of the sides, and something follows them. -/
def Sided (old new : Text) : Prop :=
  ∃ o n, o ≠ [] ∧ n ≠ [] ∧ old = "a/".toList ++ o ∧ new = "b/".toList ++ n

theorem boundaryLine_eq_bareLine (o n : Text) :
    boundaryLine o n = bareLine ("a/".toList ++ o) ("b/".toList ++ n) := by
  rw [boundaryLine, bareLine, List.append_assoc]
  rfl

/-- The old side mark of a line ends before the blank between the paths. -/
theorem exists_of_after?_bareLine {old new rest : Text}
    (behind : Text.after? (Hunk.boundaryMark ++ "a/".toList) (bareLine old new) = some rest) :
    ∃ o, old = "a/".toList ++ o ∧ rest = o ++ ' ' :: new := by
  have whole := Text.after?_eq_some_iff.1 behind
  rw [bareLine, List.append_assoc, List.append_cancel_left_eq] at whole
  rcases List.append_eq_append_iff.1 whole with ⟨o, mark, among⟩ | ⟨o, same, inner⟩
  · cases o with
    | nil =>
        rw [List.append_nil] at mark
        exact ⟨[], by rw [← mark, List.append_nil], among.symm⟩
    | cons c o =>
        obtain rfl : ' ' = c := (List.cons.inj among).1
        have within : ' ' ∈ "a/".toList := mark ▸ List.mem_append_right old (List.mem_cons_self ..)
        exact absurd within (by decide)
  · exact ⟨o, same, inner⟩

section

variable {old new : Text} (someOld : old ≠ []) (visibleOld : ∀ c ∈ old, Text.isBlank c = false)
  (someNew : new ≠ []) (visibleNew : ∀ c ∈ new, Text.isBlank c = false)

include visibleOld visibleNew in
/-- Without both side marks, no side mark cuts the line. -/
theorem markedPath?_bareLine (unsided : ¬ Sided old new) :
    (Text.after? (Hunk.boundaryMark ++ "a/".toList) (bareLine old new)).bind markedPath? =
      none := by
  cases behind : Text.after? (Hunk.boundaryMark ++ "a/".toList) (bareLine old new) with
  | none => rfl
  | some rest =>
      obtain ⟨o, rfl, rfl⟩ := exists_of_after?_bareLine behind
      rw [Option.bind_some]
      cases o with
      | nil =>
          rw [List.nil_append, markedPath?,
            lastSides?_eq_none (not_infix_dropLast (not_infix_of_visible visibleNew))]
      | cons c o =>
          rw [List.cons_append, markedPath?]
          cases cut : lastSides? (o ++ ' ' :: new) with
          | none => rfl
          | some sides =>
              -- the only blank of the line would begin the mark
              obtain ⟨whole, some, -⟩ := eq_append_of_lastSides? cut
              have plainOld : ' ' ∉ o := fun mem =>
                Text.not_mem_of_isBlank (by decide) visibleOld
                  (List.mem_append_right _ (List.mem_cons_of_mem c mem))
              have plainNew : ' ' ∉ new := Text.not_mem_of_isBlank (by decide) visibleNew
              obtain ⟨-, -, mark⟩ := (List.append_cons_inj_of_notMem plainOld plainNew).1 whole
              exact absurd ⟨c :: o, sides.2, List.cons_ne_nil c o, some, rfl, mark⟩ unsided

include someNew visibleNew in
theorem dropReturn_bareLine (old : Text) :
    Text.dropReturn (bareLine old new) = bareLine old new := by
  have line : bareLine old new = Hunk.boundaryMark ++ old ++ [' '] ++ new := by
    rw [bareLine, List.append_assoc, List.append_assoc, List.singleton_append]
  apply Text.dropReturn_of_getLast?_ne
  rw [line, List.getLast?_append_of_ne_nil _ someNew]
  exact fun ended => Text.not_mem_of_isBlank (by decide) visibleNew (List.mem_of_getLast? ended)

include someOld visibleOld someNew visibleNew in
/-- Without both side marks, the second path is named as it is. -/
theorem boundaryPath?_bareLine (unbroken : '\n' ∉ bareLine old new) (unsided : ¬ Sided old new) :
    boundaryPath? (bareLine old new) = some new := by
  have first : (bareLine old new ++ []).takeWhile (· ≠ '\n') = bareLine old new :=
    Text.takeWhile_ne_append unbroken (by simp)
  have after : Text.after? Hunk.boundaryMark (bareLine old new) = some (old ++ ' ' :: new) :=
    Text.after?_append _ _
  rw [List.append_nil] at first
  simp only [boundaryPath?, first, dropReturn_bareLine someNew visibleNew, after, Option.bind_some,
    markedPath?_bareLine visibleOld visibleNew unsided,
    barePath?_append someOld visibleOld someNew visibleNew]

end

/-- A boundary line with side marks names the new path if this holds none, whatever the old path is
and whatever blanks end the line. Two paths without blanks are told apart with or without side
marks: the second is named, without the mark of its side where both have theirs. -/
theorem boundaryPath?_moved_and_bare :
    (∀ {patch old new blanks : Text}, old ≠ [] → new ≠ [] → ¬ sideMark <:+: new →
      new.getLast?.any Text.isBlank = false → (∀ c ∈ blanks, Text.isBlank c = true) →
      (Text.lines patch).head? = some (boundaryLine old new ++ blanks) →
      boundaryPath? patch = some new) ∧
    ∀ {patch old new : Text}, old ≠ [] → (∀ c ∈ old, Text.isBlank c = false) →
      new ≠ [] → (∀ c ∈ new, Text.isBlank c = false) →
      (Text.lines patch).head? = some (bareLine old new) →
      (∀ o n, o ≠ [] → n ≠ [] → old = "a/".toList ++ o → new = "b/".toList ++ n →
        boundaryPath? patch = some n) ∧
      (¬ Sided old new → boundaryPath? patch = some new) := by
  constructor
  · intro patch old new blanks someOld someNew plain last blank first
    have inner : ¬ sideMark <:+: (new ++ blanks).dropLast :=
      not_infix_dropLast (not_infix_append_blanks plain blank)
    rw [boundaryPath?_of_head?_lines first]
    exact boundaryPath?_boundaryLine_append someOld someNew (newline_not_mem_of_head?_lines first)
      last inner blank
  · intro patch old new someOld visibleOld someNew visibleNew first
    rw [boundaryPath?_of_head?_lines first]
    have unbroken := newline_not_mem_of_head?_lines first
    refine ⟨?_, boundaryPath?_bareLine someOld visibleOld someNew visibleNew unbroken⟩
    rintro o n someO someN rfl rfl
    have visible : ∀ c ∈ n, Text.isBlank c = false := fun c mem =>
      visibleNew c (List.mem_append_right _ mem)
    have last : n.getLast?.any Text.isBlank = false := by
      rw [List.getLast?_eq_some_getLast someN]
      exact visible _ (List.getLast_mem someN)
    have plain : ¬ sideMark <:+: (n ++ []).dropLast := by
      rw [List.append_nil]
      exact not_infix_dropLast (not_infix_of_visible visible)
    rw [← boundaryLine_eq_bareLine, ← List.append_nil (boundaryLine o n)] at unbroken ⊢
    exact boundaryPath?_boundaryLine_append someO someN unbroken last plain (by simp)

/-- A file that is moved from a path with marks and blanks to one with blanks, on a line that ends
with blanks. -/
def movedPatch : Text :=
  "diff --git a/x b/ b/y  b/ b /c b \t\r\nrename".toList

/-- All kinds of boundary lines: a moved file, two paths with the marks of their sides, and two where
nothing follows the old mark. -/
theorem boundaryPath?_moved_and_bare_marks :
    "x b/ b/y ".toList ≠ [] ∧ " b /c b".toList ≠ [] ∧ ¬ sideMark <:+: " b /c b".toList ∧
      " b /c b".toList.getLast?.any Text.isBlank = false ∧
      (∀ c ∈ " \t\r".toList, Text.isBlank c = true) ∧
      (Text.lines movedPatch).head? =
        some (boundaryLine "x b/ b/y ".toList " b /c b".toList ++ " \t\r".toList) ∧
      boundaryPath? movedPatch = some " b /c b".toList ∧
      "a/x".toList ≠ [] ∧ (∀ c ∈ "a/x".toList, Text.isBlank c = false) ∧
      "b/b/y".toList ≠ [] ∧ (∀ c ∈ "b/b/y".toList, Text.isBlank c = false) ∧
      (Text.lines "diff --git a/x b/b/y".toList).head? =
        some (bareLine "a/x".toList "b/b/y".toList) ∧
      boundaryPath? "diff --git a/x b/b/y".toList = some "b/y".toList ∧
      "a/".toList ≠ [] ∧ (∀ c ∈ "a/".toList, Text.isBlank c = false) ∧
      (Text.lines "diff --git a/ b/b/y\n".toList).head? =
        some (bareLine "a/".toList "b/b/y".toList) ∧
      ¬ Sided "a/".toList "b/b/y".toList ∧
      boundaryPath? "diff --git a/ b/b/y\n".toList = some "b/b/y".toList := by
  obtain ⟨moved, bare⟩ := boundaryPath?_moved_and_bare
  have ends : "x b/ b/y ".toList ≠ [] ∧ " b /c b".toList ≠ [] ∧
      ¬ sideMark <:+: " b /c b".toList ∧
      " b /c b".toList.getLast?.any Text.isBlank = false := by
    decide +kernel
  have blank : ∀ c ∈ " \t\r".toList, Text.isBlank c = true := List.all_eq_true.1 (by decide)
  have movedLine : (Text.lines movedPatch).head? =
      some (boundaryLine "x b/ b/y ".toList " b /c b".toList ++ " \t\r".toList) := by
    decide +kernel
  have old : "a/x".toList ≠ [] ∧ ∀ c ∈ "a/x".toList, Text.isBlank c = false :=
    ⟨by decide, List.all_iff_forall_prop.1 (by decide)⟩
  have new : "b/b/y".toList ≠ [] ∧ ∀ c ∈ "b/b/y".toList, Text.isBlank c = false :=
    ⟨by decide, List.all_iff_forall_prop.1 (by decide)⟩
  have short : "a/".toList ≠ [] ∧ ∀ c ∈ "a/".toList, Text.isBlank c = false :=
    ⟨by decide, List.all_iff_forall_prop.1 (by decide)⟩
  have sidedLine : (Text.lines "diff --git a/x b/b/y".toList).head? =
      some (bareLine "a/x".toList "b/b/y".toList) := by
    decide +kernel
  have shortLine : (Text.lines "diff --git a/ b/b/y\n".toList).head? =
      some (bareLine "a/".toList "b/b/y".toList) := by
    decide +kernel
  have unsided : ¬ Sided "a/".toList "b/b/y".toList := by
    rintro ⟨o, n, someO, -, mark, -⟩
    exact someO (List.self_eq_append_right.1 mark)
  exact ⟨ends.1, ends.2.1, ends.2.2.1, ends.2.2.2, blank, movedLine,
    moved ends.1 ends.2.1 ends.2.2.1 ends.2.2.2 blank movedLine, old.1, old.2, new.1,
    new.2, sidedLine, (bare old.1 old.2 new.1 new.2 sidedLine).1 ['x'] "b/y".toList (by decide)
      (by decide) rfl rfl, short.1, short.2, shortLine, unsided,
    (bare short.1 short.2 new.1 new.2 shortLine).2 unsided⟩

end PatchSurvey.ChangeSet
