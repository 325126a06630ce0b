import PatchSurvey.Proofs.Hunk.BothSides
import PatchSurvey.Proofs.Hunk.Overlong

/-! # Counting the lines of a hunk

Up to the next header or boundary, every line behind a hunk header is given a kind.
The kind depends on what is still promised, but where the cursor stands depends only
on how many lines of each kind there were, on broken promises as on kept ones. -/

namespace PatchSurvey

/-- How many lines of the new file a changed line of the side makes. -/
def Side.newLines : Side → Nat
  | added => 1
  | removed => 0

namespace Hunk

/-- How many lines of each kind have been passed. -/
structure Tally where
  added : Nat
  removed : Nat
  context : Nat
deriving DecidableEq, Repr

namespace Tally

/-- Count one more line. Ignored lines are not counted. -/
def add (kind : LineKind) (tally : Tally) : Tally :=
  match kind with
  | .added _ => { tally with added := tally.added + 1 }
  | .removed _ => { tally with removed := tally.removed + 1 }
  | .context => { tally with context := tally.context + 1 }
  | .ignored => tally

/-- The tally of lines of the given kinds. -/
def of (kinds : List LineKind) : Tally :=
  kinds.foldr add ⟨0, 0, 0⟩

/-- How many changed lines of a side have been passed. -/
def changed (tally : Tally) : Side → Nat
  | .added => tally.added
  | .removed => tally.removed

theorem of_cons (kind : LineKind) (kinds : List LineKind) :
    of (kind :: kinds) = (of kinds).add kind := rfl

end Tally

namespace Cursor

/-- The kind that a walk gives to a line. It gives none to headers and boundaries, and outside
every hunk it gives none at all. -/
def kind? (cursor : Cursor) (line : Text) : Option LineKind :=
  if Resets line then none
  else match cursor with
    | outside => none
    | inside .. => some (LineKind.of cursor.inBody line)

/-- The kinds that a walk gives to the lines, up to the first that gets none. -/
def kinds : Cursor → List Text → List LineKind
  | _, [] => []
  | cursor, line :: rest =>
      match cursor.kind? line with
      | none => []
      | some kind => kind :: kinds (cursor.pass kind) rest

/-- Pass lines of the given kinds, one after the other. -/
def passAll (cursor : Cursor) (kinds : List LineKind) : Cursor :=
  kinds.foldl (fun cursor kind => cursor.pass kind) cursor

theorem passAll_cons (cursor : Cursor) (kind : LineKind) (kinds : List LineKind) :
    cursor.passAll (kind :: kinds) = (cursor.pass kind).passAll kinds := rfl

/-- What a walk for one side records on lines of the given kinds. -/
def recordAll (side : Side) : Cursor → List LineKind → List ChangedLine
  | _, [] => []
  | cursor, kind :: rest =>
      (cursor.record? side kind).toList ++ recordAll side (cursor.pass kind) rest

/-! ## Any kinds -/

section

variable {side : Side} {next old new : Nat}

/-- Though what is left is kept from falling below zero at every line, it depends on nothing but
how many lines of each kind there were. -/
theorem passAll_inside (next old new : Nat) (kinds : List LineKind) :
    (inside next old new).passAll kinds =
      inside (next + (Tally.of kinds).added + (Tally.of kinds).context)
        (old - (Tally.of kinds).removed - (Tally.of kinds).context)
        (new - (Tally.of kinds).added - (Tally.of kinds).context) := by
  induction kinds generalizing next old new with
  | nil => rfl
  | cons kind kinds ih =>
      rw [passAll_cons, Tally.of_cons]
      -- the first line is taken off the promise, the others by the induction hypothesis
      cases kind with
      | added content =>
          rw [pass, count, consume, ih]
          simp only [Tally.add, inside.injEq]
          omega
      | removed content =>
          rw [pass, consume, ih]
          simp only [Tally.add, inside.injEq, true_and]
          omega
      | context =>
          rw [pass, count, consume, ih]
          simp only [Tally.add, inside.injEq]
          omega
      | ignored => exact ih next old new

/-- A recorded line has the number of the next new-file line, which then moves on for an added line
and stays for a removed one. -/
theorem pass_of_record?_eq_some {kind : LineKind} {found : ChangedLine}
    (recorded : (inside next old new).record? side kind = some found) :
    found.number = next ∧
      ∃ oldLeft newLeft, (inside next old new).pass kind =
        inside (next + side.newLines) oldLeft newLeft := by
  cases side <;> cases kind <;> cases recorded <;> exact ⟨rfl, _, _, rfl⟩

/-- Whatever is passed, the counter does not go back. -/
theorem exists_pass_eq_inside (next old new : Nat) (kind : LineKind) :
    ∃ after oldLeft newLeft, (inside next old new).pass kind = inside after oldLeft newLeft ∧
      next ≤ after := by
  cases kind with
  | added content => exact ⟨next + 1, _, _, rfl, Nat.le_succ next⟩
  | removed content => exact ⟨next, _, _, rfl, Nat.le_refl next⟩
  | context => exact ⟨next + 1, _, _, rfl, Nat.le_succ next⟩
  | ignored => exact ⟨next, _, _, rfl, Nat.le_refl next⟩

/-- Exactly the lines that count as changed lines of a side are recorded for it. -/
theorem length_recordAll (side : Side) (next old new : Nat) (kinds : List LineKind) :
    (recordAll side (inside next old new) kinds).length = (Tally.of kinds).changed side := by
  induction kinds generalizing next old new with
  | nil => cases side <;> rfl
  | cons kind kinds ih =>
      obtain ⟨after, oldLeft, newLeft, passed, -⟩ := exists_pass_eq_inside next old new kind
      rw [recordAll, List.length_append, passed, ih, Tally.of_cons]
      cases side <;> cases kind <;> simp [record?, Tally.add, Tally.changed, Nat.add_comm]

theorem le_number_of_mem_recordAll {kinds : List LineKind} {found : ChangedLine}
    (mem : found ∈ recordAll side (inside next old new) kinds) : (next : Int) ≤ found.number := by
  induction kinds generalizing next old new with
  | nil => cases mem
  | cons kind kinds ih =>
      rcases List.mem_append.1 mem with here | later
      · exact Int.le_of_eq (pass_of_record?_eq_some (Option.mem_toList.1 here)).1.symm
      · obtain ⟨after, oldLeft, newLeft, passed, onwards⟩ := exists_pass_eq_inside next old new kind
        rw [passed] at later
        exact Int.le_trans (Int.ofNat_le.2 onwards) (ih later)

/-- The numbers of the recorded lines are as far apart as the lines themselves demand. -/
theorem pairwise_recordAll (side : Side) (next old new : Nat) (kinds : List LineKind) :
    (recordAll side (inside next old new) kinds).Pairwise fun first second : ChangedLine =>
      first.number + side.newLines ≤ second.number := by
  induction kinds generalizing next old new with
  | nil => exact List.Pairwise.nil
  | cons kind kinds ih =>
      rw [recordAll]
      cases recorded : (inside next old new).record? side kind with
      | none =>
          obtain ⟨after, oldLeft, newLeft, passed, -⟩ := exists_pass_eq_inside next old new kind
          rw [passed]
          exact ih after oldLeft newLeft
      | some found =>
          obtain ⟨number, oldLeft, newLeft, passed⟩ := pass_of_record?_eq_some recorded
          rw [passed, Option.toList_some, List.singleton_append, List.pairwise_cons, number]
          exact ⟨fun second mem => le_number_of_mem_recordAll mem, ih _ oldLeft newLeft⟩

end

/-! ## The kinds of lines -/

section

variable {cursor : Cursor} {line : Text} {kind : LineKind}

theorem kind?_eq_some_iff :
    cursor.kind? line = some kind ↔
      cursor ≠ outside ∧ ¬ Resets line ∧ LineKind.of cursor.inBody line = kind := by
  by_cases resets : Resets line
  · simp [kind?, resets]
  · cases cursor <;> simp [kind?, resets]

/-- A line that is given a kind is recorded and passed as a line of that kind. -/
theorem visit_of_kind? (side : Side) (given : cursor.kind? line = some kind) :
    visit side cursor line = .ok (cursor.record? side kind, cursor.pass kind) := by
  obtain ⟨inside, inner, rfl⟩ := kind?_eq_some_iff.1 given
  obtain ⟨noHeader, noBoundary⟩ := not_resets_iff.1 inner
  cases cursor with
  | outside => exact absurd rfl inside
  | inside next old new => exact visit_inside side noHeader noBoundary next old new

theorem kinds_cons_of_kind? (given : cursor.kind? line = some kind) (rest : List Text) :
    cursor.kinds (line :: rest) = kind :: (cursor.pass kind).kinds rest := by
  rw [kinds, given]

/-- The lines of a hunk are given kinds one by one. -/
theorem exists_kinds_cons (inside : cursor ≠ outside) (inner : ¬ Resets line) (rest : List Text) :
    ∃ kind, cursor.kind? line = some kind ∧ cursor.pass kind ≠ outside ∧
      cursor.kinds (line :: rest) = kind :: (cursor.pass kind).kinds rest := by
  have given := kind?_eq_some_iff.2 ⟨inside, inner, rfl⟩
  exact ⟨_, given, mt pass_eq_outside_iff.1 inside, kinds_cons_of_kind? given rest⟩

end

section

variable {cursor : Cursor} (inside : cursor ≠ outside) {lines : List Text}
  (inner : ∀ line ∈ lines, ¬ Resets line)
include inside inner

theorem length_kinds : (cursor.kinds lines).length = lines.length := by
  induction lines generalizing cursor with
  | nil => rfl
  | cons line rest ih =>
      obtain ⟨first, later⟩ := List.forall_mem_cons.1 inner
      obtain ⟨kind, -, onwards, whole⟩ := exists_kinds_cons inside first rest
      rw [whole, List.length_cons, List.length_cons, ih onwards later]

/-- The kind of a line is decided where the lines before it have left the cursor. -/
theorem getElem?_kinds {i : Nat} {line : Text} (place : lines[i]? = some line) :
    (cursor.kinds lines)[i]? = (cursor.passAll (cursor.kinds (lines.take i))).kind? line := by
  induction lines generalizing cursor i with
  | nil => cases place
  | cons head rest ih =>
      obtain ⟨first, later⟩ := List.forall_mem_cons.1 inner
      obtain ⟨kind, given, onwards, whole⟩ := exists_kinds_cons inside first rest
      rw [whole]
      cases i with
      | zero =>
          obtain rfl : head = line := Option.some.inj place
          exact given.symm
      | succ i =>
          rw [List.take_succ_cons, kinds_cons_of_kind? given]
          exact ih onwards later place

/-- A run over the lines of a hunk passes their kinds. -/
theorem run_kinds (side : Side) :
    run side cursor lines =
      .ok (recordAll side cursor (cursor.kinds lines), cursor.passAll (cursor.kinds lines)) := by
  induction lines generalizing cursor with
  | nil => rfl
  | cons line rest ih =>
      obtain ⟨first, later⟩ := List.forall_mem_cons.1 inner
      obtain ⟨kind, given, onwards, whole⟩ := exists_kinds_cons inside first rest
      rw [whole]
      exact run_cons_of_ok side (visit_of_kind? side given) (ih onwards later)

end

end Cursor

end Hunk

end PatchSurvey
