import PatchSurvey.Proofs.ChangeSet.BoundaryPath
import PatchSurvey.Proofs.Diff.FileSection
import PatchSurvey.Proofs.Hunk.Overlong

/-! # A signature behind the last section

A mail ends with a signature. It stands behind the last hunk, where nothing is promised
any more, so its mark is read as a deleted line. The rest of it is passed over, and it
names neither a file nor a hunk. -/

namespace PatchSurvey.Diff

open Hunk

/-! ## The last section -/

/-- A section that ends with a hunk whose header promises exactly the lines of its body. Before the
hunk stand any lines that begin no section. -/
structure LastSection where
  names : Line
  inner : List Line
  hunk : WrittenHunk
  noBoundary : ∀ line ∈ inner, isBoundary line.text = false

/-- The lines of a signature: its mark, a version, and an empty line. -/
def signature (version : Line) : List Text :=
  ["-- ".toList, version.text, []]

/-- A version begins with a digit. -/
def Line.IsVersion (version : Line) : Prop :=
  ∃ c ∈ version.text.head?, Text.isDigit c = true

namespace LastSection

variable (last : LastSection)

/-- The boundary line and the lines before the last hunk. -/
def lead : List Text :=
  (boundaryMark ++ last.names.text) :: last.inner.map Line.text

def rows : List Text :=
  last.lead ++ last.hunk.rows

def text : Text :=
  Text.unlines last.rows

/-- The section with a signature behind it. -/
def signed (version : Line) : Text :=
  Text.unlines (last.rows ++ signature version)

/-- The new start of the hunk and, on top of it, the number of kept and inserted lines. -/
def next : Nat :=
  last.hunk.header.value.newStart + last.hunk.script.newFile.length

end LastSection

/-! ## The signature -/

/-- A single line that neither begins a section nor a hunk. -/
theorem headerRow_of_head? {row : Text} (unbroken : '\n' ∉ row)
    (noBoundary : row.head? ≠ some 'd') (noHeader : row.head? ≠ some '@') : HeaderRow row :=
  ⟨isBoundary_eq_false_of_head? noBoundary, HeaderText.read?_eq_none_of_head? noHeader, unbroken⟩

variable {version : Line}

theorem Line.IsVersion.head?_ne (isVersion : version.IsVersion) {c : Char}
    (other : Text.isDigit c = false) : version.text.head? ≠ some c := by
  obtain ⟨digit, head, isDigit⟩ := isVersion
  intro same
  obtain rfl := Option.some.inj (head.symm.trans same)
  rw [other] at isDigit
  cases isDigit

theorem headerRow_of_mem_signature (isVersion : version.IsVersion) {row : Text}
    (mem : row ∈ signature version) : HeaderRow row := by
  rcases List.mem_cons.1 mem with rfl | mem
  · exact headerRow_of_head? (by decide) (by decide) (by decide)
  rcases List.mem_cons.1 mem with rfl | mem
  · exact headerRow_of_head? version.unbroken (isVersion.head?_ne (by decide))
      (isVersion.head?_ne (by decide))
  · obtain rfl := List.mem_singleton.1 mem
    exact headerRow_of_head? (by decide) (by decide) (by decide)

/-- A line without a mark is passed over where nothing is promised. -/
theorem visit_of_ignored (side : Side) (next : Nat) {row : Text} (header : HeaderRow row)
    (ignored : LineKind.of false (Text.dropReturn row) = .ignored) :
    visit side (.inside next 0 0) (Text.dropReturn row) = .ok (none, .inside next 0 0) := by
  rw [visit_inside side (by rw [HeaderText.read?_dropReturn, header.noHeader])
    (by rw [isBoundary_dropReturn, header.noBoundary]), Cursor.read]
  have idle : (Cursor.inside next 0 0).inBody = false := rfl
  rw [idle, ignored, Cursor.record?_ignored]
  rfl

theorem kind_version (isVersion : version.IsVersion) :
    LineKind.of false (Text.dropReturn version.text) = .ignored := by
  have ⟨digit, head, _⟩ := isVersion
  obtain ⟨rest, whole⟩ := List.head?_eq_some_iff.1 head
  have other (c : Char) (noDigit : Text.isDigit c = false) : digit ≠ c := by
    rintro rfl
    exact isVersion.head?_ne noDigit head
  rw [whole, Text.dropReturn_cons (other '\r' (by decide)), LineKind.of]
  all_goals simp [other '+' (by decide), other '-' (by decide), other ' ' (by decide)]

/-- Where nothing is promised, the mark of a signature is a removed line and the rest of it is
passed over. -/
theorem run_signature (isVersion : version.IsVersion) (side : Side) (next : Nat) :
    run side (.inside next 0 0) ((signature version).map Text.dropReturn) =
      .ok (((Cursor.inside next 0 0).record? side (.removed "- ".toList)).toList,
        .inside next 0 0) := by
  have empty : HeaderRow [] := headerRow_of_head? (by decide) (by decide) (by decide)
  have mark : visit side (.inside next 0 0) (Text.dropReturn "-- ".toList) =
      .ok ((Cursor.inside next 0 0).record? side (.removed "- ".toList), .inside next 0 0) := by
    cases side <;> rfl
  have versionLine := visit_of_ignored side next
    (headerRow_of_mem_signature isVersion (by simp [signature])) (kind_version isVersion)
  have whole := run_cons_of_ok side mark (run_cons_of_ok side versionLine
    (run_cons_of_ok side (visit_of_ignored side next empty rfl) (run_nil side _)))
  rw [← List.append_nil (Option.toList _)]
  exact whole

/-! ## What is read from the last section -/

namespace LastSection

variable (last : LastSection)

theorem isSection_rows : ChangeSet.IsSection last.rows := by
  refine .intro (Text.startsWith_iff.2 ⟨last.names.text, rfl⟩) ?_ ?_
  · intro row mem
    rcases List.mem_append.1 mem with mem | mem
    · obtain ⟨line, found, rfl⟩ := List.mem_map.1 mem
      exact last.noBoundary line found
    · exact WrittenHunk.isBoundary_of_mem_rows mem
  · intro row mem
    rcases List.mem_cons.1 mem with rfl | mem
    · exact List.not_mem_append (by decide) last.names.unbroken
    · rcases List.mem_append.1 mem with mem | mem
      · exact newline_not_mem_of_mem_map_text row mem
      · exact last.hunk.newline_not_mem_rows row mem

/-- The signature belongs to the last section. -/
theorem isSection_signed (isVersion : version.IsVersion) :
    ChangeSet.IsSection (last.rows ++ signature version) :=
  last.isSection_rows.append (fun _ mem => (headerRow_of_mem_signature isVersion mem).noBoundary)
    fun _ mem => (headerRow_of_mem_signature isVersion mem).unbroken

theorem lines_text : Text.lines last.text = last.rows ++ [[]] :=
  Text.lines_unlines last.isSection_rows.newline_not_mem

theorem lines_signed (isVersion : version.IsVersion) :
    Text.lines (last.signed version) = last.rows ++ signature version ++ [[]] :=
  Text.lines_unlines (last.isSection_signed isVersion).newline_not_mem

/-- The signature holds no number. -/
theorem overlong?_signed (isVersion : version.IsVersion) :
    overlong? (last.signed version) = overlong? last.text := by
  have none : numerals (signature version) = [] := by
    rw [numerals, List.flatMap_eq_nil_iff]
    intro row mem
    rw [(headerRow_of_mem_signature isVersion mem).noHeader]
    rfl
  simp only [overlong?, last.lines_text, last.lines_signed isVersion, numerals,
    List.flatMap_append] at none ⊢
  rw [none, List.append_nil]

/-- The signature names no target. -/
theorem target?_signed (isVersion : version.IsVersion) :
    Path.target? (last.signed version) = Path.target? last.text := by
  have body : ∀ row ∈ last.hunk.body.flatMap BodyLine.rows, isBoundary row = false :=
    fun row mem => WrittenHunk.isBoundary_of_mem_rows (List.mem_cons_of_mem _ mem)
  have sign : ∀ row ∈ signature version, isBoundary row = false :=
    fun row mem => (headerRow_of_mem_signature isVersion mem).noBoundary
  have empty : ∀ row ∈ [([] : Text)], isBoundary row = false := by decide
  rw [Path.target?, Path.target?, last.lines_text, last.lines_signed isVersion, rows,
    WrittenHunk.rows, List.append_assoc, List.append_assoc, List.append_assoc]
  exact Path.targetAmong?_append_cons_of_header (HeaderText.read?_write last.hunk.numeric _) true
    last.lead (List.forall_mem_append.2 ⟨body, List.forall_mem_append.2 ⟨sign, empty⟩⟩)
    (List.forall_mem_append.2 ⟨body, empty⟩)

/-- The section is named by its boundary line, whatever stands behind it. -/
theorem boundaryPath?_signed (version : Line) :
    ChangeSet.boundaryPath? (last.signed version) = ChangeSet.boundaryPath? last.text := by
  have plain : '\n' ∉ boundaryMark ++ last.names.text :=
    last.isSection_rows.newline_not_mem _ List.mem_cons_self
  simp only [signed, text, rows, lead, List.cons_append, Text.unlines_cons,
    ChangeSet.boundaryPath?_line_append plain]

/-- If the section is readable, the mark of the signature is the only change behind its own. -/
theorem exists_changes_signed (readable : Readable last.text) (isVersion : version.IsVersion)
    (side : Side) :
    ∃ recorded, changes side last.text = .ok recorded ∧
      changes side (last.signed version) = .ok (recorded ++
        ((Cursor.inside last.next 0 0).record? side (.removed "- ".toList)).toList) := by
  have leadReadable : ReadableLines (last.lead.map Text.dropReturn) := by
    intro row mem
    apply readable.rows row
    rw [Hunk.rows, last.lines_text, rows, List.append_assoc, List.map_append]
    exact List.mem_append_left _ mem
  have headerReadable : last.hunk.header.Readable := by
    apply readable (last.hunk.header.write ++ last.hunk.caption.text) _ _
      (HeaderText.read?_write last.hunk.numeric _)
    rw [last.lines_text, rows, WrittenHunk.rows]
    simp
  obtain ⟨before, cursor, lead⟩ := exists_run_eq_ok side .outside leadReadable
  -- the header counts its body, so nothing is promised behind it
  have own : run side .outside (last.rows.map Text.dropReturn) =
      .ok (before ++ (last.hunk.changes side).map ChangedLine.dropReturn,
        .inside last.next 0 0) := by
    rw [rows, List.map_append]
    exact run_append_of_ok side lead (last.hunk.run_rows headerReadable side cursor)
  have whole := run_append_of_ok side own (run_signature isVersion side last.next)
  rw [← List.map_append] at whole
  refine ⟨before ++ (last.hunk.changes side).map ChangedLine.dropReturn, ?_, ?_⟩
  · rw [text, ← Text.joinLines_append_nil]
    exact changes_joinLines_of_run side last.isSection_rows.newline_not_mem own true
  · rw [signed, ← Text.joinLines_append_nil]
    exact changes_joinLines_of_run side (last.isSection_signed isVersion).newline_not_mem whole true

end LastSection

end PatchSurvey.Diff
