import PatchSurvey.Text.Basic
import PatchSurvey.Text.Digit

/-! # Numerals

A numeral is a row of decimal digits. Rows beyond a fixed length are refused
before they are read, whatever their value, and no number is written as one. -/

namespace PatchSurvey

/-- The longest numeral that is read or written. -/
def numeralLimit : Nat := 4300

/-- A numeral was refused for its number of digits. -/
structure NumeralTooLong where
  digits : Nat
deriving DecidableEq, Repr

/-- A number was not written for its number of digits. -/
structure NumberTooLong where
deriving DecidableEq, Repr

namespace Text

/-- The decimal digits of a number. -/
def ofNat (n : Nat) : Text :=
  Nat.toDigits 10 n

/-- The decimal digits of a number, after a minus sign if it is negative. -/
def ofInt : Int → Text
  | .ofNat n => ofNat n
  | .negSucc n => '-' :: ofNat (n + 1)

/-- The number has more digits than are written. -/
def isOverlong (n : Int) : Bool :=
  numeralLimit < (ofNat n.natAbs).length

/-- The decimal digits of a number that has not too many. -/
def writeInt (n : Int) : Except NumberTooLong Text :=
  if isOverlong n then .error {} else .ok (ofInt n)

/-- The value of a row of digits. Leading zeros count towards the limit. -/
def readNumeral (digits : Text) : Except NumeralTooLong Nat :=
  if numeralLimit < digits.length then .error ⟨digits.length⟩ else .ok (numeralValue digits)

theorem readNumeral_error_iff {digits : Text} {fault : NumeralTooLong} :
    readNumeral digits = .error fault ↔
      numeralLimit < digits.length ∧ fault = ⟨digits.length⟩ := by
  rw [readNumeral]
  split
  · simp_all [eq_comm]
  · simp; omega

end Text

/-- The wording of a refused numeral. -/
def NumeralTooLong.message (fault : NumeralTooLong) : Text :=
  "Exceeds the limit (4300 digits) for integer string conversion: value has ".toList ++
    Text.ofNat fault.digits ++
    " digits; use sys.set_int_max_str_digits() to increase the limit".toList

/-- The wording for a number that was not written. -/
def NumberTooLong.message (_ : NumberTooLong) : Text :=
  ("Exceeds the limit (4300 digits) for integer string conversion; " ++
    "use sys.set_int_max_str_digits() to increase the limit").toList

end PatchSurvey
