import PatchSurvey.Report.Summary
import PatchSurvey.Proofs.Analysis.Unbroken
import PatchSurvey.Proofs.Text.Numeral

/-! # Rows of a summary

A summary is written row by row, with one section for each check. The filename, the
language and the recorded lines are written as they are. Whatever else stands in a
row, apart from the tags, holds no line feed and no mark of a tag, so the lines of a
summary are the rows that were written. It is written unless the number of a function
has too many digits. -/

namespace PatchSurvey

/-- The tag around the entries of a check. -/
def Check.sectionTag : Check → String
  | functions => "new_functions"
  | imports => "new_imports"
  | tests => "new_test_declarations"

/-- The row of an entry of a check. -/
def Check.entryRow : Check → ChangedLine → Text
  | functions, line => Summary.item ('L' :: Text.ofInt line.number ++ ": ".toList ++ line.content)
  | imports, line | tests, line => Summary.item line.content

namespace Summary

variable {analysis : Analysis}

/-- The row before a block. -/
def opening (tag : String) : Text :=
  '<' :: tag.toList ++ ['>']

/-- The row behind a block. -/
def closing (tag : String) : Text :=
  "</".toList ++ tag.toList ++ ['>']

/-- The row with the filename. -/
def nameRow (analysis : Analysis) : Text :=
  "filename: ".toList ++ analysis.displayName "unknown"

/-- The section of a check. -/
def sectionRows (analysis : Analysis) (check : Check) : List Text :=
  tagged check.sectionTag ((analysis.found check).entries.map check.entryRow)

theorem tagged_of_ne_nil {rows : List Text} (some : rows ≠ []) (tag : String) :
    tagged tag rows = opening tag :: rows ++ [closing tag] := by
  rw [tagged, if_neg (mt List.isEmpty_iff.1 some), opening, closing]

/-- The rows of the body: the facts about the file, the sections in the order of the checks, and the
numbers of changed lines. -/
def rows (analysis : Analysis) : List Text :=
  fileRows analysis ++ Check.all.flatMap (sectionRows analysis) ++ countRows analysis

/-! ## Numbers that cannot be written -/

/-- A function was recorded with a number that has too many digits. -/
def hasOverlong (analysis : Analysis) : Bool :=
  analysis.functions.entries.any fun entry => Text.isOverlong entry.number

theorem numbered_eq (line : ChangedLine) :
    numbered line =
      if Text.isOverlong line.number then .error {} else .ok (Check.functions.entryRow line) := by
  rw [numbered, Text.writeInt]
  split <;> rfl

/-- Entries are written up to the first whose number has too many digits. -/
theorem mapM_numbered (entries : List ChangedLine) :
    entries.mapM numbered =
      if entries.any fun entry => Text.isOverlong entry.number then .error {}
      else .ok (entries.map Check.functions.entryRow) := by
  induction entries with
  | nil => rfl
  | cons entry entries ih =>
      rw [List.mapM_cons, numbered_eq, ih, List.any_cons]
      cases Text.isOverlong entry.number with
      | true => rfl
      | false => cases entries.any fun entry => Text.isOverlong entry.number <;> rfl

theorem bodyRows_eq (analysis : Analysis) :
    bodyRows analysis = if hasOverlong analysis then .error {} else .ok (rows analysis) := by
  have listed : rows analysis = fileRows analysis ++
      tagged "new_functions" (analysis.functions.entries.map Check.functions.entryRow) ++
      tagged "new_imports" (analysis.imports.lines.map item) ++
      tagged "new_test_declarations" (analysis.tests.lines.map item) ++ countRows analysis := by
    simp only [rows, Check.all, List.flatMap_cons, List.flatMap_nil, sectionRows, Matches.lines,
      List.map_map, List.append_nil, List.append_assoc]
    rfl
  rw [bodyRows, mapM_numbered, ← hasOverlong, listed]
  cases hasOverlong analysis <;> rfl

/-- A summary is written unless the number of a function has too many digits. -/
theorem write_eq (analysis : Analysis) :
    write analysis =
      if hasOverlong analysis then .error {}
      else .ok (Text.joinLines (tagged "file_analysis" (rows analysis))) := by
  rw [write, bodyRows_eq]
  cases hasOverlong analysis <;> rfl

theorem write_eq_ok_iff {text : Text} :
    write analysis = .ok text ↔ hasOverlong analysis = false ∧
      text = Text.joinLines (tagged "file_analysis" (rows analysis)) := by
  rw [write_eq]
  cases hasOverlong analysis <;> simp [eq_comm]

theorem write_eq_error_iff {fault : NumberTooLong} :
    write analysis = .error fault ↔ hasOverlong analysis = true := by
  rw [write_eq]
  cases hasOverlong analysis <;> simp

/-! ## Characters of a row -/

/-- The characters that end a line or begin a closing tag. -/
def marks : List Char :=
  ['\n', '<', '/']

/-- The text has no mark. -/
def Plain (text : Text) : Prop :=
  ∀ c ∈ marks, c ∉ text

instance (text : Text) : Decidable (Plain text) :=
  List.decidableBAll (fun c => c ∉ text) marks

theorem Plain.append {first second : Text} (h₁ : Plain first) (h₂ : Plain second) :
    Plain (first ++ second) :=
  fun c mark => List.not_mem_append (h₁ c mark) (h₂ c mark)

/-- Behind a plain label, the marks of a row stand in what is labeled. -/
theorem Plain.mem_of_mem_append {label body : Text} (plain : Plain label) {c : Char}
    (mark : c ∈ marks) (mem : c ∈ label ++ body) : c ∈ body :=
  (List.mem_append.1 mem).resolve_left (plain c mark)

theorem plain_ofNat (n : Nat) : Plain (Text.ofNat n) := by
  have other : marks.all (fun c => !Text.isDigit c) = true := by decide
  intro c mark mem
  have digit := List.all_eq_true.1 other c mark
  rw [Text.isDigit_of_mem_ofNat mem] at digit
  cases digit

theorem plain_ofInt (n : Int) : Plain (Text.ofInt n) := by
  cases n with
  | ofNat n => exact plain_ofNat n
  | negSucc n =>
      have minus : Plain ['-'] := by decide
      exact minus.append (plain_ofNat (n + 1))

theorem plain_joinWith_names (checks : List Check) :
    Plain (Text.joinWith ", ".toList (checks.map (·.name))) := by
  have comma : Plain ", ".toList := by decide
  have name (check : Check) : Plain check.name := by cases check <;> decide
  intro c mark mem
  rcases Text.mem_of_mem_joinWith mem with between | ⟨part, among, mem⟩
  · exact comma c mark between
  · obtain ⟨check, -, rfl⟩ := List.mem_map.1 among
    exact name check c mark mem

theorem plain_of_mem_countRows {row : Text} (within : row ∈ countRows analysis) : Plain row := by
  have added : Plain "added_lines: ".toList := by decide
  have deleted : Plain "deleted_lines: ".toList := by decide
  simp only [countRows, List.mem_cons, List.not_mem_nil, or_false] at within
  rcases within with rfl | rfl
  · exact added.append (plain_ofNat _)
  · exact deleted.append (plain_ofNat _)

/-- A row about the file, other than that of its name, takes its marks from the language. -/
theorem mem_language_of_mem_fileRows {row : Text} (within : row ∈ fileRows analysis)
    (other : row ≠ nameRow analysis) {c : Char} (mark : c ∈ marks) (mem : c ∈ row) :
    c ∈ analysis.language := by
  rcases List.mem_append.1 within with fact | unsupported
  · simp only [List.mem_cons, List.not_mem_nil, or_false] at fact
    rcases fact with rfl | rfl | rfl
    · exact absurd rfl other
    · have label : Plain "language: ".toList := by decide
      exact label.mem_of_mem_append mark mem
    · have truths (value : Bool) : Plain ("is_test_file: ".toList ++ truth value) := by
        cases value <;> decide
      exact absurd mem (truths _ c mark)
  · split at unsupported
    · cases unsupported
    · rw [List.mem_singleton] at unsupported
      have label : Plain "unsupported_checks: ".toList := by decide
      rw [unsupported] at mem
      exact absurd mem (label.append (plain_joinWith_names _) c mark)

/-- An entry is written behind a plain label. -/
theorem exists_entryRow_eq_append (check : Check) (line : ChangedLine) :
    ∃ label, Plain label ∧ check.entryRow line = label ++ line.content := by
  have indent : Plain "  ".toList := by decide
  cases check with
  | functions =>
      have letter : Plain ['L'] := by decide
      have colon : Plain ": ".toList := by decide
      refine ⟨"  ".toList ++ ('L' :: Text.ofInt line.number ++ ": ".toList), ?_, ?_⟩
      · exact indent.append ((letter.append (plain_ofInt line.number)).append colon)
      · rw [Check.entryRow, item, List.append_assoc "  ".toList]
  | imports => exact ⟨"  ".toList, indent, rfl⟩
  | tests => exact ⟨"  ".toList, indent, rfl⟩

/-! ## Lines -/

/-- A row of a section is one of its tags or the row of an entry. -/
theorem mem_sectionRows_cases {check : Check} {row : Text}
    (within : row ∈ sectionRows analysis check) :
    row = opening check.sectionTag ∨
      (∃ entry ∈ (analysis.found check).entries, row = check.entryRow entry) ∨
      row = closing check.sectionTag := by
  by_cases empty : (analysis.found check).entries.map check.entryRow = []
  · rw [sectionRows, empty] at within
    cases within
  · rw [sectionRows, tagged_of_ne_nil empty] at within
    rcases List.mem_append.1 within with front | last
    · rcases List.mem_cons.1 front with first | entry
      · exact Or.inl first
      · obtain ⟨entry, among, same⟩ := List.mem_map.1 entry
        exact Or.inr (Or.inl ⟨entry, among, same.symm⟩)
    · exact Or.inr (Or.inr (List.mem_singleton.1 last))

/-- A row of the body is that of the filename or belongs to a section, or takes its marks from the
language. -/
theorem mem_rows_cases {row : Text} (within : row ∈ rows analysis) :
    row = nameRow analysis ∨ (∃ check, row ∈ sectionRows analysis check) ∨
      ∀ c ∈ marks, c ∈ row → c ∈ analysis.language := by
  rw [rows] at within
  rcases List.mem_append.1 within with front | count
  · rcases List.mem_append.1 front with fact | entry
    · by_cases name : row = nameRow analysis
      · exact Or.inl name
      · exact Or.inr (Or.inr fun c mark => mem_language_of_mem_fileRows fact name mark)
    · obtain ⟨check, -, among⟩ := List.mem_flatMap.1 entry
      exact Or.inr (Or.inl ⟨check, among⟩)
  · exact Or.inr (Or.inr fun c mark mem => absurd mem (plain_of_mem_countRows count c mark))

theorem newline_not_mem_of_mem_rows (unbroken : analysis.Unbroken) {row : Text}
    (within : row ∈ rows analysis) : '\n' ∉ row := by
  have mark : '\n' ∈ marks := by decide
  rcases mem_rows_cases within with rfl | ⟨check, among⟩ | language
  · have label : Plain "filename: ".toList := by decide
    exact fun feed => unbroken.newline_not_mem_displayName (label.mem_of_mem_append mark feed)
  · rcases mem_sectionRows_cases among with rfl | ⟨entry, here, rfl⟩ | rfl
    · cases check <;> decide
    · obtain ⟨label, plain, row⟩ := exists_entryRow_eq_append check entry
      rw [row]
      exact fun feed => unbroken.recorded check entry here (plain.mem_of_mem_append mark feed)
    · cases check <;> decide
  · exact fun feed => unbroken.language (language _ mark feed)

/-- The lines of a summary are its rows. -/
theorem lines_of_write {text : Text} (unbroken : analysis.Unbroken)
    (written : write analysis = .ok text) :
    Text.lines text = opening "file_analysis" :: rows analysis ++ [closing "file_analysis"] := by
  have some : rows analysis ≠ [] := by simp [rows, fileRows]
  rw [(write_eq_ok_iff.1 written).2, tagged_of_ne_nil some]
  refine Text.lines_joinLines (List.cons_ne_nil _ _) fun row mem => ?_
  rcases List.mem_append.1 mem with front | last
  · rcases List.mem_cons.1 front with rfl | body
    · decide
    · exact newline_not_mem_of_mem_rows unbroken body
  · rw [List.mem_singleton.1 last]
    decide

end Summary

end PatchSurvey
