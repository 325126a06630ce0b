import PatchSurvey.Proofs.Hunk.Tally

/-! # Segments of a patch

A segment goes from a hunk header up to the next header or boundary. However far a
walk has come in it, the header and the tally of the lines since then say where the
cursor stands, and so how the recorded lines are numbered. A patch need not keep
what its headers promise. -/

namespace PatchSurvey.Hunk

/-- The lines `body` of a patch stand behind a hunk header whose numbers can be read, and no header
and no boundary is among them. The header stands behind the lines `before`. -/
structure IsSegment (patch : Text) (before : List Text) (header : Text) (body : List Text)
    (written : HeaderText) : Prop where
  place : before ++ header :: body <+: Text.lines patch
  read : HeaderText.read? header = some written
  readable : written.Readable
  inner : ∀ line ∈ body, ¬ Resets line

/-- The cursor stands where the tally of the lines behind a header puts it. What is left of a
promise is never negative. -/
structure Cursor.Counts (promise : Header) (tally : Tally) (cursor : Cursor) : Prop where
  counter : cursor.counter? = some (promise.newStart + tally.added + tally.context)
  oldLeft : (cursor.oldLeft : Int) = max (promise.oldCount - tally.removed - tally.context : Int) 0
  newLeft : (cursor.newLeft : Int) = max (promise.newCount - tally.added - tally.context : Int) 0

/-- What the walks over a patch do on a hunk header and the lines `body` behind it: which kinds they
give to these lines, where they stand behind them, and what they record on them. -/
structure Tallied (patch : Text) (before : List Text) (header : Text) (body : List Text)
    (promise : Header) (kinds : List LineKind) (cursor : Cursor)
    (recorded : Side → List ChangedLine) : Prop where
  length : kinds.length = body.length
  given : ∀ (i : Nat) (line : Text), body[i]? = some line → ∃ former,
    cursorAfter (before ++ header :: body.take i) = .ok former ∧
      former.kind? (Text.dropReturn line) = kinds[i]?
  behind : cursorAfter (before ++ header :: body) = .ok cursor
  counts : cursor.Counts promise (Tally.of kinds)
  runs : ∀ side former, run side former ((header :: body).map Text.dropReturn) =
    .ok (recorded side, cursor)
  collected : ∀ side whole, changes side patch = .ok whole → ∃ first last,
    changes side (Text.joinLines before) = .ok first ∧ whole = first ++ recorded side ++ last
  changed : ∀ side, (recorded side).length = (Tally.of kinds).changed side
  added_increase : (recorded .added).Pairwise fun first second => first.number < second.number
  removed_monotone : (recorded .removed).Pairwise fun first second => first.number ≤ second.number
  start_le : ∀ side, ∀ line ∈ recorded side, (promise.newStart : Int) ≤ line.number

/-- Where the counter of a walk is defined, and what that means for the next line. -/
structure Located (lines : List Text) (cursor : Cursor) : Prop where
  defined : cursor.counter?.isSome = true ↔ InHunk lines
  classified : ∀ line kind, cursor.kind? line = some kind →
    cursor.counter?.isSome = true ∧
      ∀ side, visit side cursor line = .ok (cursor.record? side kind, cursor.pass kind)
  skipped : cursor.counter? = none → ∀ line, HeaderText.read? line = none →
    ∀ side, visit side cursor line = .ok (none, cursor)
  idle : cursor.counter? = none → cursor.oldLeft = 0 ∧ cursor.newLeft = 0

/-! ## Getting there -/

/-- A walk comes through readable headers. -/
theorem exists_run_of_readable (side : Side) {lines : List Text} (readable : ReadableLines lines) :
    ∃ recorded cursor, run side .outside (lines.map Text.dropReturn) = .ok (recorded, cursor) ∧
      cursorAfter lines = .ok cursor := by
  obtain ⟨recorded, cursor, read⟩ := exists_run_eq_ok side .outside readable.dropReturn
  exact ⟨recorded, cursor, read, cursorAfter_append_of_run cursorAfter_nil read⟩

/-- A walk does not get behind a number that is too long. -/
theorem cursorAfter_of_find? {lines : List Text} {digits : Text}
    (first : (numerals lines).find? isOverlong = some digits) :
    cursorAfter lines = .error ⟨digits.length⟩ := by
  rw [← numerals_map_dropReturn] at first
  have failed := walk_of_find? .added .outside first
  rw [walk_eq_run] at failed
  rw [cursorAfter, ← snd_run .added]
  cases read : run .added .outside (lines.map Text.dropReturn) with
  | error fault =>
      rw [read] at failed
      rw [Except.error.inj failed]
      rfl
  | ok step => rw [read] at failed; cases failed

/-- A number that is too long stops the walks over the whole patch. -/
theorem exists_error_of_not_readable {patch : Text} {before : List Text}
    (place : before <+: Text.lines patch) (long : ¬ ReadableLines before) :
    ∃ fault, cursorAfter before = .error fault ∧ ∀ side, changes side patch = .error fault := by
  rw [← find?_numerals_eq_none_iff, ← ne_eq, Option.ne_none_iff_exists'] at long
  obtain ⟨digits, first⟩ := long
  obtain ⟨rest, whole⟩ := place
  refine ⟨⟨digits.length⟩, cursorAfter_of_find? first, fun side => ?_⟩
  apply changes_of_overlong? side
  rw [overlong?, ← whole, numerals, List.flatMap_append, List.find?_append]
  rw [numerals] at first
  rw [first, Option.some_or]

/-! ## The segment -/

/-- The kinds that a walk gives to the lines behind a hunk header. -/
def Header.kinds (promise : Header) (body : List Text) : List LineKind :=
  (Cursor.start promise).kinds (body.map Text.dropReturn)

theorem Cursor.start_ne_outside (promise : Header) : start promise ≠ outside := by
  simp [start]

/-- Lines of any kinds leave the cursor where their tally puts it. -/
theorem Cursor.counts_passAll (promise : Header) (kinds : List LineKind) :
    ((start promise).passAll kinds).Counts promise (Tally.of kinds) := by
  rw [start, passAll_inside]
  constructor
  · rfl
  · simp only [oldLeft]
    omega
  · simp only [newLeft]
    omega

section

variable {patch : Text} {before : List Text} {header : Text} {body : List Text}
  {written : HeaderText}

namespace IsSegment

variable (segment : IsSegment patch before header body written)
include segment

theorem not_resets_dropReturn : ∀ line ∈ body.map Text.dropReturn, ¬ Resets line := by
  intro line mem
  obtain ⟨raw, found, rfl⟩ := List.mem_map.1 mem
  exact mt resets_dropReturn.1 (segment.inner raw found)

/-- A segment may end before any of its lines. -/
theorem take (i : Nat) : IsSegment patch before header (body.take i) written := by
  have shorter : before ++ header :: body.take i <+: before ++ header :: body := by
    rw [List.prefix_append_right_inj, List.prefix_cons_inj]
    exact List.take_prefix i body
  exact ⟨shorter.trans segment.place, segment.read, segment.readable,
    fun line mem => segment.inner line (List.mem_of_mem_take mem)⟩

/-- At the header a run begins anew, and then it passes the kinds of the lines. -/
theorem run_eq (side : Side) (former : Cursor) :
    run side former ((header :: body).map Text.dropReturn) =
      .ok (Cursor.recordAll side (.start written.value) (written.value.kinds body),
        (Cursor.start written.value).passAll (written.value.kinds body)) := by
  have read := (HeaderText.read?_dropReturn header).trans segment.read
  have first : visit side former (Text.dropReturn header) = .ok (none, .start written.value) := by
    rw [visit_of_header side former read, HeaderText.promise_of_readable segment.readable]
    rfl
  exact run_cons_of_ok side first (Cursor.run_kinds (Cursor.start_ne_outside written.value)
    segment.not_resets_dropReturn side)

theorem cursorAfter_eq {former : Cursor} (here : cursorAfter before = .ok former) :
    cursorAfter (before ++ header :: body) =
      .ok ((Cursor.start written.value).passAll (written.value.kinds body)) :=
  cursorAfter_append_of_run here (segment.run_eq .added former)

theorem length_kinds : (written.value.kinds body).length = body.length := by
  rw [Header.kinds, Cursor.length_kinds (Cursor.start_ne_outside written.value)
    segment.not_resets_dropReturn, List.length_map]

/-- Every line is given its kind where the lines before it have left the walk. -/
theorem kind?_eq {i : Nat} {line : Text} (place : body[i]? = some line) :
    ((Cursor.start written.value).passAll (written.value.kinds (body.take i))).kind?
      (Text.dropReturn line) = (written.value.kinds body)[i]? := by
  have placed : (body.map Text.dropReturn)[i]? = some (Text.dropReturn line) := by
    rw [List.getElem?_map, place, Option.map_some]
  rw [Header.kinds, Header.kinds, List.map_take, Cursor.getElem?_kinds
    (Cursor.start_ne_outside written.value) segment.not_resets_dropReturn placed]

/-- What is recorded in a segment stands together in what is recorded of the patch. -/
theorem exists_changes_eq {side : Side} {recorded : List ChangedLine} {cursor : Cursor}
    (readable : ReadableLines before)
    (read : ∀ former, run side former ((header :: body).map Text.dropReturn) =
      .ok (recorded, cursor))
    {whole : List ChangedLine} (collected : changes side patch = .ok whole) :
    ∃ first last, changes side (Text.joinLines before) = .ok first ∧
      whole = first ++ recorded ++ last := by
  obtain ⟨after, lines⟩ := segment.place
  obtain ⟨first, former, earlier, -⟩ := exists_run_of_readable side readable
  have plain : ∀ row ∈ before, '\n' ∉ row := by
    intro row mem
    apply Text.newline_not_mem_of_mem_lines
    rw [← lines]
    exact List.mem_append_left _ (List.mem_append_left _ mem)
  have upTo := run_append_of_ok side earlier (read former)
  rw [changes, ← lines, List.map_append, List.map_append, walk_append, upTo] at collected
  simp only [bind, Except.bind] at collected
  cases later : walk side cursor (after.map Text.dropReturn) with
  | error fault => rw [later] at collected; cases collected
  | ok last =>
      rw [later] at collected
      refine ⟨first, last, ?_, (Except.ok.inj collected).symm⟩
      rw [changes_joinLines side plain, walk_eq_run, earlier]
      rfl

/-- The walks that reach a segment tally its lines. -/
theorem exists_tallied (readable : ReadableLines before) : ∃ kinds cursor recorded,
    Tallied patch before header body written.value kinds cursor recorded := by
  obtain ⟨-, former, -, here⟩ := exists_run_of_readable .added readable
  refine ⟨written.value.kinds body,
    (Cursor.start written.value).passAll (written.value.kinds body),
    fun side => Cursor.recordAll side (.start written.value) (written.value.kinds body), ?_⟩
  constructor
  case length => exact segment.length_kinds
  case given =>
    intro i line place
    exact ⟨_, (segment.take i).cursorAfter_eq here, segment.kind?_eq place⟩
  case behind => exact segment.cursorAfter_eq here
  case counts => exact Cursor.counts_passAll written.value _
  case runs => exact segment.run_eq
  case collected =>
    intro side whole collected
    exact segment.exists_changes_eq readable (segment.run_eq side) collected
  case changed =>
    intro side
    exact Cursor.length_recordAll side ..
  case added_increase => exact Cursor.pairwise_recordAll .added ..
  case removed_monotone =>
    refine (Cursor.pairwise_recordAll .removed ..).imp fun apart => ?_
    rwa [Side.newLines, Int.natCast_zero, Int.add_zero] at apart
  case start_le =>
    intro side line mem
    exact Cursor.le_number_of_mem_recordAll mem

end IsSegment

end

/-! ## Any place -/

theorem located_of_cursorAfter {lines : List Text} {cursor : Cursor}
    (here : cursorAfter lines = .ok cursor) : Located lines cursor := by
  constructor
  case defined =>
    rw [inHunk_iff_of_cursorAfter here]
    cases cursor <;> simp [Cursor.counter?]
  case classified =>
    intro line kind given
    refine ⟨?_, fun side => Cursor.visit_of_kind? side given⟩
    obtain ⟨inside, -⟩ := Cursor.kind?_eq_some_iff.1 given
    cases cursor with
    | outside => exact absurd rfl inside
    | inside next old new => rfl
  case skipped =>
    intro undefined line noHeader side
    cases cursor with
    | outside => exact visit_outside side noHeader
    | inside next old new => cases undefined
  case idle =>
    intro undefined
    cases cursor with
    | outside => exact ⟨rfl, rfl⟩
    | inside next old new => cases undefined

/-- In every segment of a patch, the walks that get there tally the lines, and at every place of the
patch they know whether they stand in a hunk. Only a number that is too long keeps them away. -/
theorem tallied_of_isSegment_and_located (patch : Text) :
    (∀ before header body written, IsSegment patch before header body written →
      (ReadableLines before → ∃ kinds cursor recorded,
        Tallied patch before header body written.value kinds cursor recorded) ∧
      (¬ ReadableLines before → ∃ fault, cursorAfter before = .error fault ∧
        ∀ side, changes side patch = .error fault)) ∧
    ∀ lines cursor, lines <+: Text.lines patch → cursorAfter lines = .ok cursor →
      Located lines cursor := by
  refine ⟨fun before header body written segment => ⟨segment.exists_tallied, ?_⟩, ?_⟩
  · exact exists_error_of_not_readable ((List.prefix_append before _).trans segment.place)
  · intro lines cursor _ here
    exact located_of_cursorAfter here

/-- A hunk that shows more old lines and fewer new lines than its header promises. -/
def unevenHunk : Text :=
  "@@ -1 +1 @@\n-x\r\n@@ -3 +7,9 @@ f\n a\n--- b\n-c\n\\ d\n+++ e\n\n+f\ndiff --git g\n+h".toList

/-- The surplus of old lines leaves nothing of the old side, and no debt. -/
theorem tallied_unevenHunk :
    let before := ["@@ -1 +1 @@".toList, "-x\r".toList]
    let header := "@@ -3 +7,9 @@ f".toList
    let body := [" a".toList, "--- b".toList, "-c".toList, "\\ d".toList, "+++ e".toList, [],
      "+f".toList]
    let written : HeaderText := ⟨⟨['3'], none⟩, ⟨['7'], some ['9']⟩⟩
    IsSegment unevenHunk before header body written ∧ ReadableLines before ∧
      (∃ kinds recorded,
        Tallied unevenHunk before header body written.value kinds (.inside 11 0 5) recorded) ∧
      before <+: Text.lines unevenHunk ∧ cursorAfter before = .ok (.inside 1 0 1) ∧
      Located before (.inside 1 0 1) := by
  intro before header body written
  have segment : IsSegment unevenHunk before header body written := by
    refine ⟨⟨["diff --git g".toList, "+h".toList], ?_⟩, ?_, ?_, ?_⟩ <;> decide
  have readable : ReadableLines before := by decide
  have place : before <+: Text.lines unevenHunk := by decide
  have here : cursorAfter before = .ok (.inside 1 0 1) := by decide
  have reached : cursorAfter (before ++ header :: body) = .ok (.inside 11 0 5) := by decide
  obtain ⟨segments, places⟩ := tallied_of_isSegment_and_located unevenHunk
  obtain ⟨kinds, cursor, recorded, tallied⟩ := (segments _ _ _ _ segment).1 readable
  obtain rfl := Except.ok.inj (tallied.behind.symm.trans reached)
  exact ⟨segment, readable, ⟨kinds, recorded, tallied⟩, place, here, places _ _ place here⟩

end PatchSurvey.Hunk
