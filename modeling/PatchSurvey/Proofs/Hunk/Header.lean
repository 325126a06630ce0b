import PatchSurvey.Hunk.Header
import PatchSurvey.Proofs.Text.Lines

/-! # Written hunk headers

A line is read as a hunk header exactly when it begins with the written form of
that header, so that what follows the second `@@` and a carriage return at the
end of the line never matter. -/

namespace PatchSurvey.Hunk

/-- One or more decimal digits. -/
structure IsDigits (text : Text) : Prop where
  ne_nil : text ≠ []
  isDigit : ∀ c ∈ text, Text.isDigit c = true

namespace RangeText

/-- One side as it stands in a header. -/
def write (range : RangeText) : Text :=
  range.start ++ (range.count.elim [] fun count => ',' :: count)

/-- Start and count are rows of digits. -/
structure Numeric (range : RangeText) : Prop where
  start : IsDigits range.start
  count : ∀ count ∈ range.count, IsDigits count

end RangeText

namespace HeaderText

/-- A header as it stands at the start of a line. -/
def write (written : HeaderText) : Text :=
  "@@ -".toList ++ written.old.write ++ " +".toList ++ written.new.write ++ " @@".toList

/-- All numbers are rows of digits. -/
structure Numeric (written : HeaderText) : Prop where
  old : written.old.Numeric
  new : written.new.Numeric

end HeaderText

/-- Digits are taken as far as they go. -/
theorem takeDigits?_eq_some {text digits rest : Text} (h : takeDigits? text = some (digits, rest)) :
    text = digits ++ rest ∧ IsDigits digits := by
  have whole := List.takeWhile_append_dropWhile (p := Text.isDigit) (l := text)
  rw [takeDigits?] at h
  split at h
  · simp at h
  · rename_i row some
    obtain ⟨rfl, rfl⟩ := Prod.mk.inj (Option.some.inj h)
    refine ⟨whole.symm, ⟨some, ?_⟩⟩
    intro c mem
    exact List.all_eq_true.1 (List.all_takeWhile ..) c mem

/-- A row of digits is taken off a text that goes on with another character. -/
theorem takeDigits?_append {digits : Text} (row : IsDigits digits) {c : Char}
    (other : Text.isDigit c = false) (rest : Text) :
    takeDigits? (digits ++ c :: rest) = some (digits, c :: rest) := by
  have taken : (digits ++ c :: rest).takeWhile Text.isDigit = digits := by
    rw [List.takeWhile_append_of_pos row.isDigit]
    simp [other]
  have left : (digits ++ c :: rest).dropWhile Text.isDigit = c :: rest := by
    rw [List.dropWhile_append_of_pos row.isDigit]
    simp [other]
  rw [takeDigits?, taken, left]
  split
  · exact absurd rfl row.ne_nil
  · rfl

theorem takeRange?_eq_some {text rest : Text} {range : RangeText}
    (h : takeRange? text = some (range, rest)) : text = range.write ++ rest ∧ range.Numeric := by
  simp only [takeRange?, Option.bind_eq_bind, Option.bind_eq_some_iff, Prod.exists] at h
  obtain ⟨start, tail, first, h⟩ := h
  obtain ⟨rfl, startRow⟩ := takeDigits?_eq_some first
  split at h
  · rename_i after
    simp only [Option.bind_eq_some_iff, Prod.exists] at h
    obtain ⟨count, tail, second, h⟩ := h
    obtain ⟨rfl, countRow⟩ := takeDigits?_eq_some second
    obtain ⟨rfl, rfl⟩ := Prod.mk.inj (Option.some.inj h)
    exact ⟨by simp [RangeText.write], ⟨startRow, by simpa using countRow⟩⟩
  · obtain ⟨rfl, rfl⟩ := Prod.mk.inj (Option.some.inj h)
    exact ⟨by simp [RangeText.write], ⟨startRow, by simp⟩⟩

/-- A written side is taken off a text that goes on with a space. -/
theorem takeRange?_write {range : RangeText} (numeric : range.Numeric) (rest : Text)
    (space : rest.head? = some ' ') : takeRange? (range.write ++ rest) = some (range, rest) := by
  obtain ⟨start, count⟩ := range
  obtain ⟨rest, rfl⟩ := List.head?_eq_some_iff.1 space
  cases count with
  | none =>
      have first := takeDigits?_append numeric.start (c := ' ') (by decide) rest
      simp only [RangeText.write, Option.elim_none, List.append_nil]
      simp [takeRange?, first]
  | some count =>
      have first := takeDigits?_append numeric.start (c := ',') (by decide) (count ++ ' ' :: rest)
      have second := takeDigits?_append (numeric.count count rfl) (c := ' ') (by decide) rest
      simp only [RangeText.write, Option.elim_some, List.append_assoc, List.cons_append]
      simp [takeRange?, first, second]

theorem IsDigits.newline_not_mem {digits : Text} (row : IsDigits digits) : '\n' ∉ digits :=
  fun mem => absurd (row.isDigit _ mem) (by decide)

theorem RangeText.Numeric.newline_not_mem_write {range : RangeText} (numeric : range.Numeric) :
    '\n' ∉ range.write := by
  intro mem
  rcases List.mem_append.1 mem with mem | mem
  · exact numeric.start.newline_not_mem mem
  · cases written : range.count with
    | none =>
        rw [written] at mem
        cases mem
    | some count =>
        rw [written] at mem
        rcases List.mem_cons.1 mem with comma | mem
        · exact absurd comma (by decide)
        · exact (numeric.count count written).newline_not_mem mem

namespace HeaderText

/-- A written header stands on one line. -/
theorem Numeric.newline_not_mem_write {written : HeaderText} (numeric : written.Numeric) :
    '\n' ∉ written.write := by
  have first := List.not_mem_append (s := "@@ -".toList) (by decide)
    numeric.old.newline_not_mem_write
  have second := List.not_mem_append (List.not_mem_append first (t := " +".toList) (by decide))
    numeric.new.newline_not_mem_write
  exact List.not_mem_append second (by decide)

theorem write_append (written : HeaderText) (rest : Text) :
    written.write ++ rest = "@@ -".toList ++ (written.old.write ++
      (" +".toList ++ (written.new.write ++ (" @@".toList ++ rest)))) := by
  -- for variables first: to compare the marks themselves unfolds their characters
  have assoc (a b c d e f : Text) :
      a ++ b ++ c ++ d ++ e ++ f = a ++ (b ++ (c ++ (d ++ (e ++ f)))) := by
    simp only [List.append_assoc]
  exact assoc ..

theorem getLast?_write (written : HeaderText) : written.write.getLast? = some '@' :=
  List.getLast?_append.trans rfl

/-- A line that is read as a header begins with its written form. -/
theorem read?_eq_some {line : Text} {written : HeaderText} (h : read? line = some written) :
    written.Numeric ∧ ∃ rest, line = written.write ++ rest := by
  obtain ⟨_, mark, h⟩ := Option.bind_eq_some_iff.1 h
  obtain ⟨⟨old, _⟩, first, h⟩ := Option.bind_eq_some_iff.1 h
  obtain ⟨_, plus, h⟩ := Option.bind_eq_some_iff.1 h
  obtain ⟨⟨new, _⟩, second, h⟩ := Option.bind_eq_some_iff.1 h
  obtain ⟨rest, close, h⟩ := Option.bind_eq_some_iff.1 h
  obtain rfl := Option.some.inj h
  obtain ⟨oldWhole, oldNumeric⟩ := takeRange?_eq_some first
  obtain ⟨newWhole, newNumeric⟩ := takeRange?_eq_some second
  refine ⟨⟨oldNumeric, newNumeric⟩, rest, ?_⟩
  rw [Text.after?_eq_some_iff] at mark plus close
  rw [mark, oldWhole, plus, newWhole, close]
  exact (write_append ⟨old, new⟩ rest).symm

/-- The written form of a header is read back, whatever follows it. -/
theorem read?_write {written : HeaderText} (numeric : written.Numeric) (rest : Text) :
    read? (written.write ++ rest) = some written := by
  have h₀ := Text.after?_append "@@ -".toList
    (written.old.write ++ (" +".toList ++ (written.new.write ++ (" @@".toList ++ rest))))
  have h₁ := takeRange?_write numeric.old
    (" +".toList ++ (written.new.write ++ (" @@".toList ++ rest))) rfl
  have h₂ := Text.after?_append " +".toList (written.new.write ++ (" @@".toList ++ rest))
  have h₃ := takeRange?_write numeric.new (" @@".toList ++ rest) rfl
  have h₄ := Text.after?_append " @@".toList rest
  simp only [write_append, read?, h₀, h₁, h₂, h₃, h₄, Option.bind_eq_bind, Option.bind_some]
  rfl

/-- Exactly the lines that begin with a written header are read, each as that header. -/
theorem read?_eq_some_iff {line : Text} {written : HeaderText} :
    read? line = some written ↔ written.Numeric ∧ ∃ rest, line = written.write ++ rest := by
  constructor
  · exact read?_eq_some
  · rintro ⟨numeric, rest, rfl⟩
    exact read?_write numeric rest

/-- A carriage return at the end of a line does not change how it is read. -/
@[simp] theorem read?_dropReturn (line : Text) : read? (Text.dropReturn line) = read? line := by
  have noReturn (written : HeaderText) : written.write.getLast? ≠ some '\r' := by
    rw [getLast?_write]
    decide
  apply Option.ext
  intro written
  rw [read?_eq_some_iff, read?_eq_some_iff,
    Text.exists_dropReturn_eq_append_iff (noReturn written)]

/-- A line that does not begin with an at sign is no header. -/
theorem read?_eq_none_of_head? {line : Text} (h : line.head? ≠ some '@') : read? line = none := by
  cases found : read? line with
  | none => rfl
  | some written =>
      obtain ⟨_, rest, rfl⟩ := read?_eq_some found
      exact absurd rfl h

end HeaderText

/-- A carriage return at the end of a line does not make or hide a boundary. -/
@[simp] theorem isBoundary_dropReturn (line : Text) :
    isBoundary (Text.dropReturn line) = isBoundary line :=
  Text.startsWith_dropReturn (by decide) line

/-- A boundary is no hunk header. -/
theorem read?_eq_none_of_isBoundary {line : Text} (h : isBoundary line = true) :
    HeaderText.read? line = none := by
  obtain ⟨rest, rfl⟩ := Text.startsWith_iff.1 h
  exact HeaderText.read?_eq_none_of_head? fun same => absurd (Option.some.inj same) (by decide)

theorem isBoundary_eq_false_of_read? {line : Text} {written : HeaderText}
    (header : HeaderText.read? line = some written) : isBoundary line = false := by
  cases boundary : isBoundary line with
  | false => rfl
  | true =>
      rw [read?_eq_none_of_isBoundary boundary] at header
      cases header

/-- A line that does not begin with a `d` is no boundary. -/
theorem isBoundary_eq_false_of_head? {line : Text} (h : line.head? ≠ some 'd') :
    isBoundary line = false := by
  cases found : isBoundary line with
  | false => rfl
  | true =>
      obtain ⟨rest, rfl⟩ := Text.startsWith_iff.1 found
      exact absurd rfl h

end PatchSurvey.Hunk
