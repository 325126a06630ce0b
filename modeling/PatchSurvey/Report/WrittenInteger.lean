import PatchSurvey.Text.Basic
import PatchSurvey.Text.Numeral

/-! # Integers written as strings

A string may stand for an integer. White space around it, a plus sign, zeros in
front, zero places after a point and single low lines are taken away first. What
is left must be a minus sign if the integer is negative, then its digits. -/

namespace PatchSurvey.WrittenInteger

/-- Why a string is not taken for an integer. -/
inductive Refusal where
  | unclear
  | oversized
deriving DecidableEq, Repr

/-- Remove a plus sign, which no minus sign may follow. -/
def dropPlus? : Text → Option Text
  | '+' :: '-' :: _ => none
  | '+' :: rest => some rest
  | text => some text

/-- The character may stand first once the zeros in front are removed. -/
def isLeading (c : Char) : Bool :=
  c == '-' || ('1' ≤ c && c ≤ '9')

/-- Remove further zeros and low lines, `last` being the character before the text.
It is kept where no digit follows it. -/
def skipZeros? (last : Char) : Text → Option Text
  | [] => some [last]
  | c :: rest =>
      if c = '0' ∨ c = '_' then skipZeros? c rest
      else if isLeading c then some (c :: rest)
      else if c = '.' then some (last :: c :: rest)
      else none

/-- Remove zeros in front. -/
def dropZeros? : Text → Option Text
  | [] => none
  | c :: rest =>
      if c = '0' then skipZeros? c rest
      else if isLeading c then some (c :: rest)
      else none

/-- Remove zeros in front, or those behind a minus sign. -/
def dropLeadingZeros? : Text → Option Text
  | '-' :: rest => (dropZeros? rest).map ('-' :: ·)
  | text => dropZeros? text

/-- Remove the first point if zeros follow it, at least one, and nothing else. -/
def dropPlaces (text : Text) : Text :=
  let places := (text.dropWhile (· ≠ '.')).tail
  if places ≠ [] ∧ places.all (· == '0') then text.takeWhile (· ≠ '.') else text

/-- Two low lines stand side by side. -/
def hasDoubleLine : Text → Bool
  | [] => false
  | '_' :: '_' :: _ => true
  | _ :: rest => hasDoubleLine rest

/-- Remove all low lines if each stands alone between other characters. -/
def dropLowLines (text : Text) : Text :=
  if text.head? = some '_' ∨ text.getLast? = some '_' ∨ hasDoubleLine text then text
  else text.filter (· ≠ '_')

/-- What is left of a string once all that may be taken away is gone. -/
def clean? (text : Text) : Option Text := do
  let unsigned ← dropPlus? (Text.strip text)
  let numeral ← dropLeadingZeros? unsigned
  return dropLowLines (dropPlaces numeral)

/-- The number that digits write, of which there are at most `limit`. Zero is the
only number that begins with zero. A row of digits that is too long is oversized
whatever follows it. -/
def readDigits (limit : Nat) (text : Text) : Except Refusal Nat :=
  match text.takeWhile Char.isDigit with
  | [] => .error .unclear
  | '0' :: _ => if text = ['0'] then .ok 0 else .error .unclear
  | digits =>
      if limit < digits.length then .error .oversized
      else if digits.length < text.length then .error .unclear
      else .ok (Text.numeralValue digits)

/-- The integer that a sign and digits write. The sign counts towards the limit. -/
def readSigned : Text → Except Refusal Int
  | '-' :: rest => (readDigits (numeralLimit - 1) rest).map fun size => -(size : Int)
  | text => (readDigits numeralLimit text).map fun size => (size : Int)

/-- The integer that a string stands for. -/
def read (text : Text) : Except Refusal Int :=
  match clean? text with
  | some numeral => readSigned numeral
  | none => .error .unclear

end PatchSurvey.WrittenInteger
