import Mathlib.Data.List.Induction
import PatchSurvey.Proofs.Hunk.Position

/-! # Both walks over one patch

A patch is walked once for each side, and neither walk knows of the other. Both
fail with one fault, or both stand at the same cursor behind every line, and a
changed line is recorded by the walk for its own side alone. -/

namespace PatchSurvey.Hunk

/-! ## Walks line by line -/

/-- What a walk records on each line, with the cursor behind the line. -/
def trace (side : Side) :
    Cursor → List Text → Except NumeralTooLong (List (Option ChangedLine × Cursor))
  | _, [] => .ok []
  | cursor, line :: rest => do
      let step ← visit side cursor line
      return step :: (← trace side step.2 rest)

/-- The cursors behind the lines, whatever is recorded. -/
def path : Cursor → List Text → Except NumeralTooLong (List Cursor)
  | _, [] => .ok []
  | cursor, line :: rest => do
      let next ← advance cursor line
      return next :: (← path next rest)

variable {side : Side} {cursor : Cursor}

/-- A walk collects what its lines record. -/
theorem walk_eq_trace (side : Side) (cursor : Cursor) (lines : List Text) :
    walk side cursor lines = (trace side cursor lines).map (List.filterMap Prod.fst) := by
  induction lines generalizing cursor with
  | nil => rfl
  | cons line rest ih =>
      rw [walk, trace]
      cases visit side cursor line with
      | error fault => rfl
      | ok step =>
          obtain ⟨recorded, next⟩ := step
          simp only [bind, Except.bind, ih next]
          cases trace side next rest with
          | error fault => rfl
          | ok steps => cases recorded <;> rfl

/-- The side of a walk decides what is recorded, never where the cursor goes. -/
theorem map_snd_trace (side : Side) (cursor : Cursor) (lines : List Text) :
    (trace side cursor lines).map (List.map Prod.snd) = path cursor lines := by
  induction lines generalizing cursor with
  | nil => rfl
  | cons line rest ih =>
      rw [trace, path, visit_eq_advance]
      cases advance cursor line with
      | error fault => rfl
      | ok next =>
          simp only [Except.map, bind, Except.bind, ← ih next]
          cases trace side next rest <;> rfl

theorem trace_of_path_error {lines : List Text} {fault : NumeralTooLong}
    (failed : path cursor lines = .error fault) (side : Side) :
    trace side cursor lines = .error fault := by
  rw [← map_snd_trace side] at failed
  cases traced : trace side cursor lines with
  | error other =>
      rw [traced] at failed
      rw [Except.error.inj failed]
  | ok steps => rw [traced] at failed; cases failed

theorem exists_trace_of_path {lines : List Text} {cursors : List Cursor}
    (passed : path cursor lines = .ok cursors) (side : Side) :
    ∃ steps, trace side cursor lines = .ok steps ∧ steps.map Prod.snd = cursors := by
  rw [← map_snd_trace side] at passed
  cases traced : trace side cursor lines with
  | error fault => rw [traced] at passed; cases passed
  | ok steps =>
      rw [traced] at passed
      exact ⟨steps, rfl, Except.ok.inj passed⟩

theorem trace_cons_eq_ok {line : Text} {rest : List Text}
    {steps : List (Option ChangedLine × Cursor)}
    (traced : trace side cursor (line :: rest) = .ok steps) :
    ∃ next more, advance cursor line = .ok next ∧ trace side next rest = .ok more ∧
      steps = (cursor.recorded? side line, next) :: more := by
  rw [trace, visit_eq_advance] at traced
  cases step : advance cursor line with
  | error fault => rw [step] at traced; cases traced
  | ok next =>
      rw [step] at traced
      cases later : trace side next rest with
      | error fault => simp [Except.map, bind, Except.bind, later] at traced
      | ok more =>
          refine ⟨next, more, rfl, later, ?_⟩
          simp only [Except.map, bind, Except.bind, later] at traced
          exact (Except.ok.inj traced).symm

/-- A walk makes one step on each line. -/
theorem length_of_trace {lines : List Text} {steps : List (Option ChangedLine × Cursor)}
    (traced : trace side cursor lines = .ok steps) : steps.length = lines.length := by
  induction lines generalizing cursor steps with
  | nil =>
      obtain rfl := Except.ok.inj traced
      rfl
  | cons line rest ih =>
      obtain ⟨next, more, -, later, rfl⟩ := trace_cons_eq_ok traced
      rw [List.length_cons, List.length_cons, ih later]

/-- Each step of a walk is given by the cursor that the lines before it have left. -/
theorem exists_step_of_trace {before rest : List Text} (here : cursorAfter before = .ok cursor)
    {steps : List (Option ChangedLine × Cursor)}
    (traced : trace side cursor (rest.map Text.dropReturn) = .ok steps) {i : Nat} {line : Text}
    (place : rest[i]? = some line) :
    ∃ former next, cursorAfter (before ++ rest.take i) = .ok former ∧
      steps[i]? = some (former.recorded? side (Text.dropReturn line), next) := by
  induction rest generalizing before cursor steps i with
  | nil => cases place
  | cons first rest ih =>
      obtain ⟨next, more, step, later, rfl⟩ := trace_cons_eq_ok traced
      cases i with
      | zero =>
          obtain rfl : first = line := Option.some.inj place
          exact ⟨cursor, next, by rwa [List.take_zero, List.append_nil], rfl⟩
      | succ i =>
          have behind := (cursorAfter_concat_of_ok here first).trans step
          obtain ⟨former, last, reached, found⟩ := ih behind later place
          refine ⟨former, last, ?_, found⟩
          rwa [List.append_assoc] at reached

/-! ## Changed lines -/

/-- Behind these lines a hunk has begun since the last file boundary, or since the start. -/
def InHunk (before : List Text) : Prop :=
  ∃ earlier header later, before = earlier ++ header :: later ∧
    (HeaderText.read? header).isSome = true ∧ ∀ line ∈ later, isBoundary line = false

theorem not_inHunk_nil : ¬ InHunk [] := by
  rintro ⟨earlier, header, later, whole, -⟩
  cases earlier <;> cases whole

/-- One more line begins a hunk, or leaves the file of the hunk before it, or neither. -/
theorem inHunk_concat_iff {before : List Text} {line : Text} :
    InHunk (before ++ [line]) ↔
      (HeaderText.read? line).isSome = true ∨ InHunk before ∧ isBoundary line = false := by
  constructor
  · rintro ⟨earlier, header, later, whole, begun, inner⟩
    rcases List.eq_nil_or_concat later with rfl | ⟨later, last, rfl⟩
    · obtain ⟨-, same⟩ := List.append_inj' whole rfl
      rw [List.singleton_inj.1 same]
      exact Or.inl begun
    · rw [List.concat_eq_append] at whole inner
      rw [← List.cons_append, ← List.append_assoc] at whole
      obtain ⟨rfl, same⟩ := List.append_inj' whole rfl
      obtain ⟨innerLater, innerLast⟩ := List.forall_mem_append.1 inner
      rw [List.singleton_inj.1 same]
      exact Or.inr ⟨⟨earlier, header, later, rfl, begun, innerLater⟩,
        innerLast last (List.mem_singleton_self last)⟩
  · rintro (begun | ⟨⟨earlier, header, later, rfl, begun, inner⟩, noBoundary⟩)
    · exact ⟨before, line, [], rfl, begun, by simp⟩
    · refine ⟨earlier, header, later ++ [line], by simp, begun, ?_⟩
      exact List.forall_mem_append.2 ⟨inner, List.forall_mem_singleton.2 noBoundary⟩

/-- A walk is inside a hunk exactly behind a header that no file boundary follows. -/
theorem inHunk_iff_of_cursorAfter {before : List Text} (here : cursorAfter before = .ok cursor) :
    InHunk before ↔ cursor ≠ .outside := by
  induction before using List.reverseRecOn generalizing cursor with
  | nil =>
      obtain rfl := Except.ok.inj here
      simp [not_inHunk_nil]
  | append_singleton before line ih =>
      obtain ⟨former, reached, step⟩ := cursorAfter_concat_eq_ok_iff.1 here
      rw [inHunk_concat_iff]
      by_cases resets : Resets line
      · rcases resets with header | boundary
        · obtain ⟨written, read⟩ := Option.isSome_iff_exists.1 header
          rw [advance_of_header former ((HeaderText.read?_dropReturn line).trans read)] at step
          cases promise : written.promise with
          | error fault => rw [promise] at step; cases step
          | ok promised =>
              rw [promise] at step
              obtain rfl := Except.ok.inj step
              simp [header, Cursor.start]
        · rw [advance_of_boundary former ((isBoundary_dropReturn line).trans boundary)] at step
          obtain rfl := Except.ok.inj step
          simp [boundary, read?_eq_none_of_isBoundary boundary]
      · rw [advance_of_not_resets former (mt resets_dropReturn.1 resets)] at step
        obtain ⟨noHeader, noBoundary⟩ := not_resets_iff.1 resets
        obtain rfl := Except.ok.inj step
        rw [ne_eq, Cursor.pass_eq_outside_iff, ← ne_eq, ← ih reached]
        simp [noHeader, noBoundary]

/-- A line that is a change of the side: it stands behind a hunk header of its file, begins with the
sign of the side, and does not look like the header of a file unless its hunk promises more. -/
structure IsChange (side : Side) (before : List Text) (line content : Text) : Prop where
  inHunk : InHunk before
  signed : Text.dropReturn line = side.sign :: content
  plain : InBody before ∨
    Text.startsWith (List.replicate 3 side.sign) (Text.dropReturn line) = false

/-- A line with the sign of a side is recorded unless it looks like the header of a file. -/
theorem recorded?_sign (side : Side) (next old new : Nat) (content : Text) :
    (Cursor.inside next old new).recorded? side (side.sign :: content) =
      if (Cursor.inside next old new).inBody ||
          !Text.startsWith (List.replicate 3 side.sign) (side.sign :: content) then
        some ⟨next, content⟩
      else none := by
  rw [Cursor.recorded?]
  generalize (Cursor.inside next old new).inBody = promised
  cases side with
  | added =>
      change Cursor.record? .added
          (if promised || !Text.startsWith "+++".toList ('+' :: content) then .added content
            else .ignored) _ = _
      exact apply_ite (Cursor.record? .added · (.inside next old new)) ..
  | removed =>
      change Cursor.record? .removed
          (if promised || !Text.startsWith "---".toList ('-' :: content) then .removed content
            else .ignored) _ = _
      exact apply_ite (Cursor.record? .removed · (.inside next old new)) ..

/-- A line is recorded exactly behind a hunk header, for its sign, under the number of the next
new-file line. -/
theorem recorded?_eq_some_iff {line : Text} {found : ChangedLine} :
    cursor.recorded? side line = some found ↔
      cursor ≠ .outside ∧ line = side.sign :: found.content ∧
        (cursor.inBody = true ∨ Text.startsWith (List.replicate 3 side.sign) line = false) ∧
        cursor.counter?.map Int.ofNat = some found.number := by
  obtain ⟨number, content⟩ := found
  cases cursor with
  | outside => simp [Cursor.recorded?]
  | inside next old new =>
      constructor
      · intro recorded
        obtain rfl := recorded?_eq_some recorded
        rw [recorded?_sign] at recorded
        split at recorded
        · rename_i plain
          cases recorded
          refine ⟨by simp, rfl, ?_, rfl⟩
          simpa using plain
        · cases recorded
      · rintro ⟨-, rfl, plain, number⟩
        rw [recorded?_sign, if_pos (by simpa using plain)]
        simpa [Cursor.counter?] using number

/-- The line at a place is recorded by a walk exactly if it is a change of its side. -/
theorem isChange_iff_of_trace {patch : Text} {steps : List (Option ChangedLine × Cursor)}
    (traced : trace side .outside (rows patch) = .ok steps) {i : Nat} {line : Text}
    (place : (Text.lines patch)[i]? = some line) (content : Text) :
    (steps[i]?.bind Prod.fst).map ChangedLine.content = some content ↔
      IsChange side ((Text.lines patch).take i) line content := by
  obtain ⟨former, next, here, found⟩ := exists_step_of_trace cursorAfter_nil traced place
  rw [List.nil_append] at here
  have promised : InBody ((Text.lines patch).take i) ↔ former.inBody = true := by
    rw [inBody_iff, here]
    rfl
  rw [found, Option.bind_some]
  constructor
  · intro recorded
    obtain ⟨change, same, rfl⟩ := Option.map_eq_some_iff.1 recorded
    obtain ⟨inside, signed, plain, -⟩ := recorded?_eq_some_iff.1 same
    exact ⟨(inHunk_iff_of_cursorAfter here).2 inside, signed, plain.imp_left promised.2⟩
  · rintro ⟨inHunk, signed, plain⟩
    have inside := (inHunk_iff_of_cursorAfter here).1 inHunk
    cases former with
    | outside => exact absurd rfl inside
    | inside number old new =>
        have recorded : (Cursor.inside number old new).recorded? side (Text.dropReturn line) =
            some ⟨number, content⟩ :=
          recorded?_eq_some_iff.2 ⟨inside, signed, plain.imp_left promised.1, rfl⟩
        rw [recorded, Option.map_some]

/-- What is recorded at a place is the change that stands there. -/
theorem exists_isChange_of_trace {patch : Text} {steps : List (Option ChangedLine × Cursor)}
    (traced : trace side .outside (rows patch) = .ok steps) {i : Nat} {found : ChangedLine}
    (recorded : steps[i]?.bind Prod.fst = some found) :
    ∃ line, (Text.lines patch)[i]? = some line ∧
      IsChange side ((Text.lines patch).take i) line found.content := by
  have length := length_of_trace traced
  rw [rows, List.length_map] at length
  obtain ⟨step, here, -⟩ := Option.bind_eq_some_iff.1 recorded
  obtain ⟨bound, -⟩ := List.getElem?_eq_some_iff.1 here
  have place := List.getElem?_eq_getElem (length ▸ bound)
  refine ⟨_, place, (isChange_iff_of_trace traced place found.content).1 ?_⟩
  rw [recorded, Option.map_some]

/-- No line is a change of both sides. -/
theorem IsChange.side_unique {before : List Text} {line content other : Text}
    (added : IsChange .added before line content) : ¬ IsChange .removed before line other := by
  intro removed
  have same := added.signed.symm.trans removed.signed
  exact absurd (List.cons.inj same).1 (by decide)

/-- The walks over a patch for the two sides, step by step. They pass the same cursors, and on each
line each of them records exactly the change of its own side. -/
structure TracesAgree (patch : Text) (steps : Side → List (Option ChangedLine × Cursor)) :
    Prop where
  traced : ∀ side, trace side .outside (rows patch) = .ok (steps side)
  collected : ∀ side, changes side patch = .ok ((steps side).filterMap Prod.fst)
  length : ∀ side, (steps side).length = (Text.lines patch).length
  cursors : (steps .added).map Prod.snd = (steps .removed).map Prod.snd
  apart : ∀ i : Nat, (steps .added)[i]?.bind Prod.fst = none ∨
    (steps .removed)[i]?.bind Prod.fst = none
  recorded : ∀ (i : Nat) (line : Text), (Text.lines patch)[i]? = some line → ∀ side content,
    ((steps side)[i]?.bind Prod.fst).map ChangedLine.content = some content ↔
      IsChange side ((Text.lines patch).take i) line content

/-- The two walks over a patch fail with one fault, or they agree on every line. -/
theorem changes_eq_error_or_tracesAgree (patch : Text) :
    (∃ fault, ∀ side, changes side patch = .error fault) ∨ ∃ steps, TracesAgree patch steps := by
  cases passed : path .outside (rows patch) with
  | error fault =>
      refine Or.inl ⟨fault, fun side => ?_⟩
      rw [changes_eq_walk, walk_eq_trace, trace_of_path_error passed side]
      rfl
  | ok cursors =>
      right
      choose steps traced moved using exists_trace_of_path passed
      refine ⟨steps, traced, ?_, ?_, ?_, ?_, ?_⟩
      · intro side
        rw [changes_eq_walk, walk_eq_trace, traced side]
        rfl
      · intro side
        have length := length_of_trace (traced side)
        rwa [rows, List.length_map] at length
      · rw [moved, moved]
      · intro i
        cases first : (steps .added)[i]?.bind Prod.fst with
        | none => exact Or.inl rfl
        | some added =>
            cases second : (steps .removed)[i]?.bind Prod.fst with
            | none => exact Or.inr rfl
            | some removed =>
                obtain ⟨line, place, isAdded⟩ := exists_isChange_of_trace (traced .added) first
                obtain ⟨other, same, isRemoved⟩ := exists_isChange_of_trace (traced .removed) second
                obtain rfl := Option.some.inj (place.symm.trans same)
                exact absurd isRemoved isAdded.side_unique
      · intro i line place side content
        exact isChange_iff_of_trace (traced side) place content

end PatchSurvey.Hunk
