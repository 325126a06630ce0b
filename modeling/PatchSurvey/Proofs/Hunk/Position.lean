import PatchSurvey.Proofs.Hunk.Walk

/-! # Where a walk stands and what it records

A step of a walk falls into two parts: where the cursor goes, which is the same
for both sides, and what is recorded. A recorded line is a line of the patch
without its sign, so a walk is known from the places that it records and the
numbers that it gives them. -/

namespace PatchSurvey

/-- The sign before the lines of a side. -/
def Side.sign : Side → Char
  | added => '+'
  | removed => '-'

namespace Hunk

theorem not_resets_iff {line : Text} :
    ¬ Resets line ↔ HeaderText.read? line = none ∧ isBoundary line = false := by
  simp [Resets]

/-! ## One step -/

/-- The cursor behind one line. -/
def advance (cursor : Cursor) (line : Text) : Except NumeralTooLong Cursor :=
  match HeaderText.read? line with
  | some written => written.promise.map .start
  | none =>
      if isBoundary line then .ok .outside
      else .ok (cursor.pass (LineKind.of cursor.inBody line))

/-- The line that a walk for one side records before it goes on. -/
def Cursor.recorded? (cursor : Cursor) (side : Side) (line : Text) : Option ChangedLine :=
  cursor.record? side (LineKind.of cursor.inBody line)

/-- A line of a hunk neither leaves the hunk nor begins one. -/
theorem Cursor.pass_eq_outside_iff {cursor : Cursor} {kind : LineKind} :
    cursor.pass kind = .outside ↔ cursor = .outside := by
  cases cursor <;> cases kind <;> simp [Cursor.pass, Cursor.count, Cursor.consume]

@[simp] theorem Cursor.record?_outside (side : Side) (kind : LineKind) :
    Cursor.outside.record? side kind = none := by
  cases side <;> cases kind <;> rfl

section

variable (cursor : Cursor) {line : Text}

theorem advance_of_header {written : HeaderText} (read : HeaderText.read? line = some written) :
    advance cursor line = written.promise.map .start := by
  simp only [advance, read]

theorem advance_of_boundary (boundary : isBoundary line = true) :
    advance cursor line = .ok .outside := by
  simp only [advance, read?_eq_none_of_isBoundary boundary, boundary, if_true]

theorem advance_of_not_resets (inner : ¬ Resets line) :
    advance cursor line = .ok (cursor.pass (LineKind.of cursor.inBody line)) := by
  obtain ⟨noHeader, noBoundary⟩ := not_resets_iff.1 inner
  simp only [advance, noHeader, noBoundary, Bool.false_eq_true, if_false]

end

theorem LineKind.of_eq_ignored {line : Text} {c : Char} (head : line.head? = some c)
    (other : c ∉ ['+', '-', ' ']) (promised : Bool) : LineKind.of promised line = .ignored := by
  obtain ⟨rest, rfl⟩ := List.head?_eq_some_iff.1 head
  simp only [List.mem_cons, List.not_mem_nil, or_false, not_or] at other
  unfold LineKind.of
  split <;> simp_all

/-- A line that is read as a change begins with the sign of its side. -/
theorem recorded?_eq_some {cursor : Cursor} {side : Side} {line : Text} {found : ChangedLine}
    (h : cursor.recorded? side line = some found) : line = side.sign :: found.content := by
  cases cursor with
  | outside => rw [Cursor.recorded?, Cursor.record?_outside] at h; cases h
  | inside next old new =>
      unfold Cursor.recorded? LineKind.of at h
      split at h
      · split at h <;> cases side <;> cases h
        rfl
      · split at h <;> cases side <;> cases h
        rfl
      · rw [Cursor.record?_context] at h; cases h
      · split at h <;> cases side <;> cases h
      · rw [Cursor.record?_ignored] at h; cases h

/-- Headers and boundaries are not recorded. -/
theorem recorded?_of_resets {line : Text} (resets : Resets line) (cursor : Cursor) (side : Side) :
    cursor.recorded? side line = none := by
  have ignored : LineKind.of cursor.inBody line = .ignored := by
    rcases resets with header | boundary
    · obtain ⟨written, read⟩ := Option.isSome_iff_exists.1 header
      obtain ⟨_, rest, rfl⟩ := HeaderText.read?_eq_some read
      exact LineKind.of_eq_ignored (c := '@') rfl (by decide) _
    · obtain ⟨rest, rfl⟩ := Text.startsWith_iff.1 boundary
      exact LineKind.of_eq_ignored (c := 'd') rfl (by decide) _
  rw [Cursor.recorded?, ignored, Cursor.record?_ignored]

/-- A step records by itself and moves the cursor by itself. -/
theorem visit_eq_advance (side : Side) (cursor : Cursor) (line : Text) :
    visit side cursor line =
      (advance cursor line).map fun next => (cursor.recorded? side line, next) := by
  by_cases resets : Resets line
  · rw [recorded?_of_resets resets]
    rcases resets with header | boundary
    · obtain ⟨written, read⟩ := Option.isSome_iff_exists.1 header
      rw [visit_of_header side cursor read, advance_of_header cursor read]
      cases written.promise <;> rfl
    · rw [visit_of_boundary side cursor boundary, advance_of_boundary cursor boundary]
      rfl
  · obtain ⟨noHeader, noBoundary⟩ := not_resets_iff.1 resets
    rw [advance_of_not_resets cursor resets]
    cases cursor with
    | outside =>
        rw [visit_outside side noHeader, Cursor.pass_eq_outside_iff.2 rfl, Cursor.recorded?,
          Cursor.record?_outside]
        rfl
    | inside next old new =>
        rw [visit_inside side noHeader noBoundary]
        rfl

/-! ## Many steps -/

/-- The cursor behind the first lines of a patch. -/
def cursorAfter (lines : List Text) : Except NumeralTooLong Cursor :=
  (lines.map Text.dropReturn).foldlM advance .outside

@[simp] theorem cursorAfter_nil : cursorAfter [] = .ok .outside := rfl

theorem cursorAfter_concat (lines : List Text) (line : Text) :
    cursorAfter (lines ++ [line]) =
      cursorAfter lines >>= fun cursor => advance cursor (Text.dropReturn line) := by
  simp only [cursorAfter, List.map_append, List.map_cons, List.map_nil, List.foldlM_append,
    List.foldlM_cons, List.foldlM_nil, bind_pure]

theorem cursorAfter_concat_eq_ok_iff {before : List Text} {line : Text} {cursor : Cursor} :
    cursorAfter (before ++ [line]) = .ok cursor ↔
      ∃ former, cursorAfter before = .ok former ∧
        advance former (Text.dropReturn line) = .ok cursor := by
  rw [cursorAfter_concat]
  cases cursorAfter before <;> simp [bind, Except.bind]

theorem cursorAfter_concat_of_ok {before : List Text} {cursor : Cursor}
    (here : cursorAfter before = .ok cursor) (line : Text) :
    cursorAfter (before ++ [line]) = advance cursor (Text.dropReturn line) := by
  rw [cursorAfter_concat, here]
  rfl

/-- A walk that has read these lines stands inside a hunk that promises more. -/
def InBody (lines : List Text) : Prop :=
  ∃ cursor, cursorAfter lines = .ok cursor ∧ cursor.inBody = true

theorem inBody_iff {lines : List Text} :
    InBody lines ↔ (cursorAfter lines).toOption.any Cursor.inBody = true := by
  rw [InBody]
  cases cursorAfter lines <;> simp [Except.toOption]

instance (lines : List Text) : Decidable (InBody lines) :=
  decidable_of_iff _ inBody_iff.symm

/-- The cursor behind a run does not depend on its side. -/
theorem snd_run (side : Side) (cursor : Cursor) (lines : List Text) :
    (run side cursor lines).map Prod.snd = lines.foldlM advance cursor := by
  induction lines generalizing cursor with
  | nil => rfl
  | cons line rest ih =>
      rw [run, visit_eq_advance, List.foldlM_cons]
      cases advance cursor line with
      | error fault => rfl
      | ok next =>
          simp only [Except.map, bind, Except.bind, ← ih next]
          cases run side next rest <;> rfl

/-- A run goes on from where the lines before it have left the walk. -/
theorem cursorAfter_append_of_run {side : Side} {before lines : List Text} {former cursor : Cursor}
    {recorded : List ChangedLine} (here : cursorAfter before = .ok former)
    (read : run side former (lines.map Text.dropReturn) = .ok (recorded, cursor)) :
    cursorAfter (before ++ lines) = .ok cursor := by
  have onwards := snd_run side former (lines.map Text.dropReturn)
  rw [read] at onwards
  rw [cursorAfter] at here ⊢
  rw [List.map_append, List.foldlM_append, here]
  exact onwards.symm

/-! ## What is recorded -/

/-- The places that a walk records with the numbers that they get, when the first line stands at
`place`. -/
def marks (side : Side) : Cursor → Nat → List Text → Except NumeralTooLong (List (Nat × Int))
  | _, _, [] => .ok []
  | cursor, place, line :: rest => do
      let next ← advance cursor line
      (marks side next (place + 1) rest).map
        (((cursor.recorded? side line).map fun found => (place, found.number)).toList ++ ·)

/-- The line at a place without its sign, with the number that the place gets. -/
def changedAt (lines : List Text) (mark : Nat × Int) : ChangedLine :=
  ⟨mark.2, (lines.getD mark.1 []).tail⟩

theorem marks_cons_of_ok {side : Side} {cursor next : Cursor} {line : Text}
    (step : advance cursor line = .ok next) (place : Nat) (rest : List Text) :
    marks side cursor place (line :: rest) = (marks side next (place + 1) rest).map
      (((cursor.recorded? side line).map fun found => (place, found.number)).toList ++ ·) := by
  rw [marks, step]
  rfl

theorem marks_cons_of_error {side : Side} {cursor : Cursor} {line : Text} {fault : NumeralTooLong}
    (step : advance cursor line = .error fault) (place : Nat) (rest : List Text) :
    marks side cursor place (line :: rest) = .error fault := by
  rw [marks, step]
  rfl

/-- A walk records the lines at its marks. -/
theorem walk_eq_marks (side : Side) (cursor : Cursor) (before rest : List Text) :
    walk side cursor rest =
      (marks side cursor before.length rest).map (List.map (changedAt (before ++ rest))) := by
  induction rest generalizing cursor before with
  | nil => rfl
  | cons line rest ih =>
      rw [walk, visit_eq_advance]
      cases step : advance cursor line with
      | error fault =>
          rw [marks_cons_of_error step]
          rfl
      | ok next =>
          have whole : before ++ line :: rest = (before ++ [line]) ++ rest := by simp
          have later := ih next (before ++ [line])
          rw [← whole, List.length_append, List.length_singleton] at later
          have here : (((cursor.recorded? side line).map fun found =>
              (before.length, found.number)).toList.map (changedAt (before ++ line :: rest))) =
              (cursor.recorded? side line).toList := by
            cases found : cursor.recorded? side line with
            | none => rfl
            | some change =>
                have content := recorded?_eq_some found
                simp [changedAt, content]
          rw [marks_cons_of_ok step]
          simp only [bind, Except.bind, Except.map, later]
          cases marks side next (before.length + 1) rest with
          | error fault => rfl
          | ok more =>
              simp only [pure, Except.pure, List.map_append, here]

/-- At every mark stands a line with the sign of the side. -/
theorem exists_sign_of_mem_marks {side : Side} {cursor : Cursor} {before rest : List Text}
    {found : List (Nat × Int)} (h : marks side cursor before.length rest = .ok found)
    {mark : Nat × Int} (mem : mark ∈ found) :
    ∃ content, (before ++ rest)[mark.1]? = some (side.sign :: content) := by
  induction rest generalizing cursor before found with
  | nil => cases h; cases mem
  | cons line rest ih =>
      cases step : advance cursor line with
      | error fault => rw [marks_cons_of_error step] at h; cases h
      | ok next =>
          rw [marks_cons_of_ok step] at h
          have whole : before ++ line :: rest = (before ++ [line]) ++ rest := by simp
          have place : before.length + 1 = (before ++ [line]).length := by simp
          cases later : marks side next (before.length + 1) rest with
          | error fault => rw [later] at h; cases h
          | ok more =>
              rw [later] at h
              obtain rfl := Except.ok.inj h
              rcases List.mem_append.1 mem with here | mem
              · obtain ⟨change, found, rfl⟩ := Option.map_eq_some_iff.1 (Option.mem_toList.1 here)
                exact ⟨change.content, by simp [← recorded?_eq_some found]⟩
              · rw [whole]
                exact ih (place ▸ later) mem

theorem rows_getD (patch : Text) (place : Nat) :
    (rows patch).getD place [] = Text.dropReturn ((Text.lines patch).getD place []) := by
  rw [rows, List.getD_eq_getElem?_getD, List.getD_eq_getElem?_getD, List.getElem?_map]
  cases (Text.lines patch)[place]? <;> rfl

/-- The changes of a patch are the lines at its marks. -/
theorem changes_eq_marks (side : Side) (patch : Text) :
    changes side patch =
      (marks side .outside 0 (rows patch)).map (List.map (changedAt (rows patch))) :=
  walk_eq_marks side .outside [] (rows patch)

end Hunk

end PatchSurvey
