import PatchSurvey.Text.Blank

/-! # Texts and their lines

A text is the list of its characters. Only a line feed ends a line. -/

namespace PatchSurvey

/-- The characters of a text in order. -/
abbrev Text := List Char

namespace Text

/-- What follows `mark` in a text that begins with it. -/
def after? : Text → Text → Option Text
  | [], text => some text
  | _ :: _, [] => none
  | m :: mark, c :: text => if m = c then after? mark text else none

/-- The text begins with `mark`. -/
def startsWith (mark text : Text) : Bool :=
  (after? mark text).isSome

/-- Remove `mark` from the start where it stands there. -/
def dropMark (mark text : Text) : Text :=
  (after? mark text).getD text

/-- Remove blanks at the start. -/
def trimStart (text : Text) : Text :=
  text.dropWhile isBlank

/-- Remove blanks at the end. -/
def trimEnd (text : Text) : Text :=
  (text.reverse.dropWhile isBlank).reverse

/-- Remove blanks at both ends. -/
def trim (text : Text) : Text :=
  trimEnd (trimStart text)

/-- Remove white space at both ends. -/
def strip (text : Text) : Text :=
  ((text.dropWhile isSpace).reverse.dropWhile isSpace).reverse

/-- Remove one carriage return at the end. -/
def dropReturn (line : Text) : Text :=
  if line.getLast? = some '\r' then line.dropLast else line

/-- The lines of a text, at least one. -/
def lines : Text → List Text
  | [] => [[]]
  | c :: text =>
      if c = '\n' then [] :: lines text
      else match lines text with
        | [] => [[c]]
        | line :: rest => (c :: line) :: rest

/-- Join lines by line feeds. -/
def joinLines (rows : List Text) : Text :=
  List.intercalate ['\n'] rows

/-- Join texts by `between`. -/
def joinWith (between : Text) (parts : List Text) : Text :=
  List.intercalate between parts

theorem after?_eq_some_iff {mark text rest : Text} :
    after? mark text = some rest ↔ text = mark ++ rest := by
  induction mark generalizing text with
  | nil => simp [after?]
  | cons m mark ih =>
      cases text with
      | nil => simp [after?]
      | cons c text =>
          by_cases same : m = c
          · subst same; simp [after?, ih]
          · simp [after?, same, Ne.symm same]

@[simp] theorem after?_append (mark rest : Text) : after? mark (mark ++ rest) = some rest :=
  after?_eq_some_iff.2 rfl

theorem startsWith_iff {mark text : Text} :
    startsWith mark text = true ↔ ∃ rest, text = mark ++ rest := by
  simp only [startsWith, Option.isSome_iff_exists, after?_eq_some_iff]

theorem mem_of_mem_dropMark {mark text : Text} {c : Char} (mem : c ∈ dropMark mark text) :
    c ∈ text := by
  rw [dropMark] at mem
  cases found : after? mark text with
  | none => rwa [found] at mem
  | some rest =>
      rw [found] at mem
      rw [after?_eq_some_iff.1 found]
      exact List.mem_append_right mark mem

theorem lines_ne_nil (text : Text) : lines text ≠ [] := by
  cases text with
  | nil => simp [lines]
  | cons c text =>
      rw [lines]
      split
      · simp
      · split <;> simp

/-- A line holds no line feed. -/
theorem newline_not_mem_of_mem_lines {text line : Text} (h : line ∈ lines text) :
    '\n' ∉ line := by
  induction text generalizing line with
  | nil => simp_all [lines]
  | cons c text ih =>
      rw [lines] at h
      split at h
      · rcases List.mem_cons.1 h with rfl | h
        · simp
        · exact ih h
      · rename_i other
        split at h
        · simp_all [Ne.symm other]
        · rename_i first rest cut
          rcases List.mem_cons.1 h with rfl | h
          · have := @ih first (by simp [cut])
            simp [this, Ne.symm other]
          · exact ih (by simp [cut, h])

/-- Joining the lines gives the text back. -/
theorem joinLines_lines (text : Text) : joinLines (lines text) = text := by
  induction text with
  | nil => rfl
  | cons c text ih =>
      rw [lines]
      split
      · rename_i feed
        subst feed
        have some := lines_ne_nil text
        cases cut : lines text with
        | nil => exact absurd cut some
        | cons line rest =>
            rw [cut] at ih
            simp only [joinLines, List.intercalate_cons_cons, List.nil_append] at ih ⊢
            rw [ih]; rfl
      · have some := lines_ne_nil text
        cases cut : lines text with
        | nil => exact absurd cut some
        | cons line rest =>
            rw [cut] at ih
            cases rest with
            | nil => simpa [joinLines] using ih
            | cons next rest =>
                simp only [joinLines, List.intercalate_cons_cons, List.cons_append] at ih ⊢
                rw [ih]

/-- A line feed separates the lines before it from those after it. -/
theorem lines_append_newline (first second : Text) :
    lines (first ++ '\n' :: second) = lines first ++ lines second := by
  induction first with
  | nil => simp [lines]
  | cons c first ih =>
      rw [List.cons_append, lines, lines, ih]
      split
      · rfl
      · have some := lines_ne_nil first
        cases cut : lines first with
        | nil => exact absurd cut some
        | cons line rest => rfl

/-- A text without a line feed is one line. -/
theorem lines_of_not_mem {line : Text} (h : '\n' ∉ line) : lines line = [line] := by
  induction line with
  | nil => rfl
  | cons c line ih =>
      simp only [List.mem_cons, not_or] at h
      rw [lines, if_neg (Ne.symm h.1), ih h.2]

/-- Splitting undoes joining. -/
theorem lines_joinLines {rows : List Text} (some : rows ≠ []) (plain : ∀ row ∈ rows, '\n' ∉ row) :
    lines (joinLines rows) = rows := by
  induction rows with
  | nil => exact absurd rfl some
  | cons row rows ih =>
      have alone := lines_of_not_mem (plain row (List.mem_cons_self ..))
      cases rows with
      | nil => simpa [joinLines] using alone
      | cons next rows =>
          have rest := ih (by simp) fun row h => plain row (List.mem_cons_of_mem _ h)
          have step : joinLines (row :: next :: rows) = row ++ '\n' :: joinLines (next :: rows) := by
            simp [joinLines]
          rw [step, lines_append_newline, alone, rest]
          rfl

end Text

end PatchSurvey
