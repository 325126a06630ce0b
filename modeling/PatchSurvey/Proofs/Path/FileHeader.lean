import PatchSurvey.Proofs.Path.Lockstep

/-! # Lines of a file header

Between a boundary, or the start of a patch, and the next hunk header a walk is
outside of every hunk. What stands on such a line does not matter to it, as long
as the line begins neither a file nor a hunk. -/

namespace PatchSurvey.Path

open Hunk

/-- Behind these lines a file header goes on: no hunk has begun since the last boundary, or since
the start. -/
def InFileHeader (before : List Text) : Prop :=
  ∃ earlier header, before = earlier ++ header ∧
    (earlier = [] ∨ ∃ mark, earlier.getLast? = some mark ∧ isBoundary mark = true) ∧
    ∀ line ∈ header, HeaderText.read? line = none

/-- Behind a boundary a search is in a file header, and so is the walk. -/
theorem inStep_concat_of_boundary (before : List Text) {line : Text}
    (boundary : isBoundary line = true) : InStep (before ++ [line]) true := by
  intro cursor after
  obtain ⟨former, -, after⟩ := cursorAfter_concat_eq_ok_iff.1 after
  rw [advance_of_boundary former ((isBoundary_dropReturn line).trans boundary)] at after
  cases after
  simp

/-- Without a hunk header nothing ends a file header. -/
theorem InStep.append {before : List Text} (step : InStep before true) {header : List Text}
    (noHeader : ∀ line ∈ header, HeaderText.read? line = none) :
    InStep (before ++ header) true := by
  induction header generalizing before with
  | nil => rwa [List.append_nil]
  | cons line header ih =>
      obtain ⟨first, later⟩ := List.forall_mem_cons.1 noHeader
      have kept : headerAfter true line = true := by simp [headerAfter, first]
      have next := step.concat line
      rw [kept] at next
      have whole : before ++ line :: header = (before ++ [line]) ++ header := by simp
      rw [whole]
      exact ih next later

/-- In a file header the walk is outside of every hunk, if it has not failed. -/
theorem InFileHeader.inStep {before : List Text} (h : InFileHeader before) :
    InStep before true := by
  obtain ⟨earlier, header, rfl, start, noHeader⟩ := h
  refine InStep.append ?_ noHeader
  rcases start with rfl | ⟨mark, last, boundary⟩
  · exact inStep_nil
  · obtain ⟨first, rfl⟩ := List.getLast?_eq_some_iff.1 last
    exact inStep_concat_of_boundary first boundary

/-! ## One line for another -/

/-- Outside of every hunk a walk passes over a line that begins none. -/
theorem walk_outside_cons (side : Side) {line : Text} (inner : ¬ Resets line)
    (rest : List Text) : walk side .outside (line :: rest) = walk side .outside rest := by
  rw [walk, visit_outside side (not_resets_iff.1 inner).1]
  exact bind_pure (walk side .outside rest)

/-- A walk passes over a line of a file header. -/
theorem walk_append_cons_of_inFileHeader (side : Side) {before : List Text}
    (header : InFileHeader before) {line : Text} (inner : ¬ Resets line) (after : List Text) :
    walk side .outside ((before ++ line :: after).map Text.dropReturn) =
      walk side .outside ((before ++ after).map Text.dropReturn) := by
  rw [List.map_append, List.map_cons, List.map_append, walk_append, walk_append]
  cases ran : run side .outside (before.map Text.dropReturn) with
  | error fault => rfl
  | ok reached =>
      have here := cursorAfter_append_of_run cursorAfter_nil ran
      have outside : reached.2 = .outside := (header.inStep reached.2 here).1 rfl
      simp only [bind, Except.bind, outside,
        walk_outside_cons side (mt resets_dropReturn.1 inner)]

/-- A line of a file header may be replaced by any other without a change of what is recorded. -/
theorem changes_set_of_inFileHeader (side : Side) {patch line new : Text} {i : Nat}
    (place : (Text.lines patch)[i]? = some line) (header : InFileHeader ((Text.lines patch).take i))
    (inner : ¬ Resets line) (unbroken : '\n' ∉ new) (innerNew : ¬ Resets new) :
    changes side (Text.joinLines ((Text.lines patch).set i new)) = changes side patch := by
  obtain ⟨bound, same⟩ := List.getElem?_eq_some_iff.1 place
  have plain : ∀ row ∈ (Text.lines patch).set i new, '\n' ∉ row := by
    intro row mem
    rcases List.mem_or_eq_of_mem_set mem with mem | rfl
    · exact Text.newline_not_mem_of_mem_lines mem
    · exact unbroken
  have whole : (Text.lines patch).take i ++ line :: (Text.lines patch).drop (i + 1) =
      Text.lines patch := by
    rw [← same, ← List.drop_eq_getElem_cons bound, List.take_append_drop]
  calc
    changes side (Text.joinLines ((Text.lines patch).set i new))
      = walk side .outside (((Text.lines patch).take i ++ new ::
          (Text.lines patch).drop (i + 1)).map Text.dropReturn) := by
        rw [changes_joinLines side plain, List.set_eq_take_append_cons_drop, if_pos bound]
    _ = walk side .outside (((Text.lines patch).take i ++ line ::
          (Text.lines patch).drop (i + 1)).map Text.dropReturn) := by
        rw [walk_append_cons_of_inFileHeader side header innerNew,
          walk_append_cons_of_inFileHeader side header inner]
    _ = changes side patch := by
        rw [whole, changes]

end PatchSurvey.Path
