import PatchSurvey.Hunk.Cursor
import PatchSurvey.Text.Numeral

/-! # Matches

The added lines that carry a signal, each with its number. A language without
tables is told apart from one where nothing was found. -/

namespace PatchSurvey

/-- Recorded lines, and whether the language has tables. -/
structure Matches where
  entries : List ChangedLine
  supported : Bool
deriving DecidableEq, Repr

/-- As many lines as numbers were wanted. -/
structure UnequalColumns where
  lines : Nat
  numbers : Nat
deriving DecidableEq, Repr

/-- The wording of unequal columns. -/
def UnequalColumns.message (fault : UnequalColumns) : Text :=
  "lines and line_numbers must be parallel (".toList ++ Text.ofNat fault.lines ++
    " != ".toList ++ Text.ofNat fault.numbers ++ ")".toList

namespace Matches

/-- No lines of a supported language. -/
def empty : Matches :=
  ⟨[], true⟩

/-- The language has no tables. -/
def unsupported : Matches :=
  ⟨[], false⟩

/-- The recorded texts. -/
def lines (found : Matches) : List Text :=
  found.entries.map (·.content)

/-- The recorded numbers. -/
def numbers (found : Matches) : List Int :=
  found.entries.map (·.number)

/-- Something was recorded. -/
def isSome (found : Matches) : Bool :=
  !found.entries.isEmpty

/-- The number of recorded lines. -/
def size (found : Matches) : Nat :=
  found.entries.length

/-- Matches from a column of texts and one of numbers. -/
def ofColumns (lines : List Text) (numbers : List Int) (supported : Bool) :
    Except UnequalColumns Matches :=
  if lines.length = numbers.length then .ok ⟨List.zipWith ChangedLine.mk numbers lines, supported⟩
  else .error ⟨lines.length, numbers.length⟩

theorem length_lines (found : Matches) : found.lines.length = found.numbers.length := by
  simp [lines, numbers]

/-- Equal columns give matches with just these columns. -/
theorem ofColumns_lines_numbers (found : Matches) :
    ofColumns found.lines found.numbers found.supported = .ok found := by
  have zip : ∀ entries : List ChangedLine,
      List.zipWith ChangedLine.mk (entries.map (·.number)) (entries.map (·.content)) = entries := by
    intro entries
    induction entries with
    | nil => rfl
    | cons entry rest ih => simp [ih]
  simp [ofColumns, lines, numbers, zip]

end Matches

end PatchSurvey
