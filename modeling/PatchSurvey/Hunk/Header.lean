import PatchSurvey.Text.Numeral

/-! # Hunk headers and file boundaries

A hunk header `@@ -a,b +c,d @@` announces where a hunk starts and how many lines
it has on each side. A missing count means one line. -/

namespace PatchSurvey.Hunk

/-- One side of a hunk header as it is written. -/
structure RangeText where
  start : Text
  count : Option Text
deriving DecidableEq, Repr

/-- A hunk header as it is written. -/
structure HeaderText where
  old : RangeText
  new : RangeText
deriving DecidableEq, Repr

/-- What a hunk header promises. The old start is not kept: nothing depends on it. -/
structure Header where
  newStart : Nat
  oldCount : Nat
  newCount : Nat
deriving DecidableEq, Repr

/-- Take a row of digits; there must be one digit. -/
def takeDigits? (text : Text) : Option (Text × Text) :=
  match text.takeWhile Text.isDigit with
  | [] => none
  | digits => some (digits, text.dropWhile Text.isDigit)

/-- Take a start and the count that may follow it. -/
def takeRange? (text : Text) : Option (RangeText × Text) := do
  let (start, rest) ← takeDigits? text
  match rest with
  | ',' :: rest =>
      let (count, rest) ← takeDigits? rest
      return (⟨start, some count⟩, rest)
  | _ => return (⟨start, none⟩, rest)

/-- Read a line that begins with a hunk header. -/
def HeaderText.read? (line : Text) : Option HeaderText := do
  let (old, rest) ← takeRange? (← Text.after? "@@ -".toList line)
  let (new, rest) ← takeRange? (← Text.after? " +".toList rest)
  let _ ← Text.after? " @@".toList rest
  return ⟨old, new⟩

/-- The value of a count; one line where it is not written. -/
def countValue : Option Text → Except NumeralTooLong Nat
  | none => .ok 1
  | some digits => Text.readNumeral digits

/-- The promise of a written header. The new start is read first, then the old count, then
the new count. -/
def HeaderText.promise (written : HeaderText) : Except NumeralTooLong Header := do
  let newStart ← Text.readNumeral written.new.start
  let oldCount ← countValue written.old.count
  let newCount ← countValue written.new.count
  return ⟨newStart, oldCount, newCount⟩

/-- The words that begin the section of a file. -/
def boundaryMark : Text :=
  "diff --git ".toList

/-- The line begins the section of a file. -/
def isBoundary (line : Text) : Bool :=
  Text.startsWith boundaryMark line

end PatchSurvey.Hunk
