import PatchSurvey.Proofs.Hunk.Readable

/-! # Numbers that are too long

The numbers of a patch are read line by line, and in a header the new start comes
before the old count and the old count before the new count. A walk fails exactly
if one of them is too long. The first of these is what it reports, for whichever
side it is. -/

namespace PatchSurvey.Hunk

/-- The row has more digits than can be read. -/
def isOverlong (digits : Text) : Bool :=
  numeralLimit < digits.length

/-- The numbers of a header in the order in which they are read. The old start is not read. -/
def HeaderText.numerals (written : HeaderText) : List Text :=
  written.new.start :: (written.old.count.toList ++ written.new.count.toList)

/-- The numbers of all hunk headers among the lines, in the order in which they are read. -/
def numerals (lines : List Text) : List Text :=
  lines.flatMap fun line => (HeaderText.read? line).toList.flatMap HeaderText.numerals

/-- The first number of a patch that is too long. -/
def overlong? (patch : Text) : Option Text :=
  (numerals (Text.lines patch)).find? isOverlong

theorem readNumeral_of_isOverlong {digits : Text} (long : isOverlong digits = true) :
    Text.readNumeral digits = .error ⟨digits.length⟩ :=
  Text.readNumeral_error_iff.2 ⟨of_decide_eq_true long, rfl⟩

theorem readNumeral_of_not_isOverlong {digits : Text} (short : isOverlong digits = false) :
    Text.readNumeral digits = .ok (Text.numeralValue digits) :=
  Text.readNumeral_of_length_le (Nat.not_lt.1 (of_decide_eq_false short))

/-! ## One header -/

namespace HeaderText

variable {written : HeaderText}

theorem find?_numerals_eq_none_iff :
    written.numerals.find? isOverlong = none ↔ written.Readable := by
  have short (digits : Text) : ¬ isOverlong digits = true ↔ digits.length ≤ numeralLimit := by
    simp [isOverlong]
  rw [List.find?_eq_none, numerals, List.forall_mem_cons, List.forall_mem_append]
  simp only [short, Option.mem_toList]
  constructor
  · rintro ⟨newStart, oldCount, newCount⟩
    exact ⟨newStart, oldCount, newCount⟩
  · rintro ⟨newStart, oldCount, newCount⟩
    exact ⟨newStart, oldCount, newCount⟩

/-- A count is refused for its own length, or it is short. -/
theorem countValue_of_find? {count : Option Text} :
    countValue count = match count.toList.find? isOverlong with
      | some digits => .error ⟨digits.length⟩
      | none => .ok (count.elim 1 Text.numeralValue) := by
  cases count with
  | none => rfl
  | some digits =>
      rw [countValue, Option.toList_some, List.find?_singleton]
      cases long : isOverlong digits with
      | true => exact readNumeral_of_isOverlong long
      | false => exact readNumeral_of_not_isOverlong long

/-- A header fails for the first of its numbers that is too long. -/
theorem promise_of_find? {digits : Text}
    (first : written.numerals.find? isOverlong = some digits) :
    written.promise = .error ⟨digits.length⟩ := by
  rw [numerals, List.find?_cons] at first
  cases start : isOverlong written.new.start with
  | true =>
      rw [start] at first
      obtain rfl := Option.some.inj first
      rw [promise, readNumeral_of_isOverlong start]
      rfl
  | false =>
      rw [start] at first
      simp only [List.find?_append] at first
      rw [promise, readNumeral_of_not_isOverlong start, countValue_of_find?, countValue_of_find?]
      cases old : written.old.count.toList.find? isOverlong with
      | some count =>
          rw [old, Option.some_or] at first
          obtain rfl := Option.some.inj first
          rfl
      | none =>
          rw [old, Option.none_or] at first
          rw [first]
          rfl

end HeaderText

/-! ## All lines -/

theorem numerals_cons (line : Text) (rest : List Text) :
    numerals (line :: rest) =
      (HeaderText.read? line).toList.flatMap HeaderText.numerals ++ numerals rest :=
  List.flatMap_cons

theorem numerals_map_dropReturn (lines : List Text) :
    numerals (lines.map Text.dropReturn) = numerals lines := by
  simp only [numerals, List.flatMap_map, HeaderText.read?_dropReturn]

theorem find?_numerals_eq_none_iff {lines : List Text} :
    (numerals lines).find? isOverlong = none ↔ ReadableLines lines := by
  simp only [numerals, ReadableLines, ← HeaderText.find?_numerals_eq_none_iff, List.find?_eq_none,
    List.mem_flatMap, Option.mem_toList]
  exact ⟨fun h line mem written read digits found => h digits ⟨line, mem, written, read, found⟩,
    fun h digits ⟨line, mem, written, read, found⟩ => h line mem written read digits found⟩

/-- A walk fails for the first number that is too long, wherever it begins. -/
theorem walk_of_find? (side : Side) (cursor : Cursor) {lines : List Text} {digits : Text}
    (first : (numerals lines).find? isOverlong = some digits) :
    walk side cursor lines = .error ⟨digits.length⟩ := by
  induction lines generalizing cursor with
  | nil => cases first
  | cons line rest ih =>
      rw [numerals_cons, List.find?_append] at first
      rw [walk]
      cases read : HeaderText.read? line with
      | none =>
          rw [read] at first
          have plain : ∀ written ∈ HeaderText.read? line, written.Readable := by simp [read]
          obtain ⟨recorded, next, step⟩ := exists_visit_eq_ok side cursor plain
          rw [step]
          simp only [bind, Except.bind, ih next first]
      | some written =>
          rw [read, Option.toList_some, List.flatMap_singleton] at first
          rw [visit_of_header side cursor read]
          cases here : written.numerals.find? isOverlong with
          | some found =>
              rw [here, Option.some_or] at first
              obtain rfl := Option.some.inj first
              rw [HeaderText.promise_of_find? here]
              rfl
          | none =>
              rw [here, Option.none_or] at first
              have readable := HeaderText.find?_numerals_eq_none_iff.1 here
              rw [HeaderText.promise_of_readable readable]
              simp only [Except.map, bind, Except.bind, ih _ first]

/-- In a patch that is one header, only the numbers of that header can be too long. -/
theorem overlong?_write {written : HeaderText} (numeric : written.Numeric) :
    overlong? written.write = written.numerals.find? isOverlong := by
  have read : HeaderText.read? written.write = some written :=
    List.append_nil written.write ▸ HeaderText.read?_write numeric []
  rw [overlong?, Text.lines_of_not_mem numeric.newline_not_mem_write, numerals,
    List.flatMap_singleton, read, Option.toList_some, List.flatMap_singleton]

/-- Nothing in a patch is too long exactly if the patch is readable. -/
theorem overlong?_eq_none_iff {patch : Text} : overlong? patch = none ↔ Readable patch :=
  find?_numerals_eq_none_iff

theorem changes_of_overlong? (side : Side) {patch digits : Text}
    (first : overlong? patch = some digits) : changes side patch = .error ⟨digits.length⟩ := by
  rw [overlong?, ← numerals_map_dropReturn] at first
  exact walk_of_find? side .outside first

/-- A patch is refused exactly for its first number that is too long. -/
theorem changes_eq_error_iff {side : Side} {patch : Text} {fault : NumeralTooLong} :
    changes side patch = .error fault ↔
      ∃ digits, overlong? patch = some digits ∧ fault = ⟨digits.length⟩ := by
  cases long : overlong? patch with
  | some digits => simp [changes_of_overlong? side long, eq_comm]
  | none =>
      obtain ⟨recorded, read⟩ := exists_changes_eq_ok side (overlong?_eq_none_iff.1 long)
      simp [read]

end PatchSurvey.Hunk
