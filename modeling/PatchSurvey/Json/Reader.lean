import PatchSurvey.Json.Basic
import PatchSurvey.Text.Numeral

/-! # Reading JSON

The reader accepts JSON and the three numbers `NaN`, `Infinity` and `-Infinity`.
Control characters inside strings and anything after the value are refused, and so
are arrays and objects that lie deeper than a limit. Of a repeated key the last
value counts, at the place of the first. -/

namespace PatchSurvey.Json

/-- Why a text was refused. -/
inductive ReadError where
  /-- The text is not JSON. -/
  | malformed
  /-- An integer has too many digits. -/
  | tooLong (fault : NumeralTooLong)
  /-- More arrays and objects are open than the limit allows. -/
  | tooDeep
  /-- A string has a half of a pair alone, which is no character. -/
  | halfPair
deriving DecidableEq, Repr

/-- White space between the parts of a value. -/
def isSpace (c : Char) : Bool :=
  c == ' ' || c == '\t' || c == '\n' || c == '\r'

/-- Pass over white space. -/
def skip (text : Text) : Text :=
  text.dropWhile isSpace

/-! ## Strings -/

/-- A part of a string: a character, or a 16-bit unit written by its number. -/
inductive Piece where
  | char (c : Char)
  | unit (value : Nat)
deriving DecidableEq, Repr

/-- The value of a hexadecimal digit. -/
def hexValue? (c : Char) : Option Nat :=
  if '0' ≤ c ∧ c ≤ '9' then some (c.toNat - '0'.toNat)
  else if 'a' ≤ c ∧ c ≤ 'f' then some (c.toNat - 'a'.toNat + 10)
  else if 'A' ≤ c ∧ c ≤ 'F' then some (c.toNat - 'A'.toNat + 10)
  else none

/-- The value of four hexadecimal digits. -/
def unitValue? (a b c d : Char) : Option Nat := do
  return ((← hexValue? a) * 16 + (← hexValue? b)) * 256 + (← hexValue? c) * 16 + (← hexValue? d)

/-- The character of a short escape. -/
def shortEscape? : Char → Option Char
  | '"' => some '"'
  | '\\' => some '\\'
  | '/' => some '/'
  | 'b' => some (Char.ofNat 0x08)
  | 'f' => some (Char.ofNat 0x0C)
  | 'n' => some '\n'
  | 'r' => some '\r'
  | 't' => some '\t'
  | _ => none

/-- The pieces of a string up to its closing quote. -/
def readPieces : Text → Option (List Piece × Text)
  | [] => none
  | '"' :: rest => some ([], rest)
  | '\\' :: 'u' :: a :: b :: c :: d :: rest => do
      let value ← unitValue? a b c d
      let (pieces, rest) ← readPieces rest
      return (.unit value :: pieces, rest)
  | '\\' :: e :: rest => do
      let c ← shortEscape? e
      let (pieces, rest) ← readPieces rest
      return (.char c :: pieces, rest)
  | c :: rest =>
      if c.toNat < 0x20 ∨ c = '\\' then none
      else do
        let (pieces, rest) ← readPieces rest
        return (.char c :: pieces, rest)

/-- Join the pieces. Two units that make a pair are one character; a half of a pair alone is
none. -/
def joinPieces : List Piece → Option Text
  | [] => some []
  | .char c :: rest => (joinPieces rest).map (c :: ·)
  | .unit high :: .unit low :: rest =>
      if 0xD800 ≤ high ∧ high < 0xDC00 ∧ 0xDC00 ≤ low ∧ low < 0xE000 then
        (joinPieces rest).map
          (Char.ofNat (0x10000 + (high - 0xD800) * 0x400 + (low - 0xDC00)) :: ·)
      else (unitChar? high).bind fun c => (joinPieces (.unit low :: rest)).map (c :: ·)
  | .unit value :: rest => (unitChar? value).bind fun c => (joinPieces rest).map (c :: ·)
where
  /-- The character of a single unit. -/
  unitChar? (value : Nat) : Option Char :=
    if 0xD800 ≤ value ∧ value < 0xE000 then none else some (Char.ofNat value)

/-- A string after its opening quote. -/
def readString (text : Text) : Except ReadError (Text × Text) :=
  match readPieces text with
  | some (pieces, rest) =>
      match joinPieces pieces with
      | some value => .ok (value, rest)
      | none => .error .halfPair
  | none => .error .malformed

/-! ## Numbers -/

/-- A sign and digits for an exponent, if they stand here. -/
def takeExponent (text : Text) : Option (Int × Text) :=
  match text with
  | e :: rest =>
      if e = 'e' ∨ e = 'E' then
        let (negative, rest) := match rest with
          | '-' :: rest => (true, rest)
          | '+' :: rest => (false, rest)
          | rest => (false, rest)
        match rest.takeWhile Char.isDigit with
        | [] => none
        | digits =>
            let size : Int := Text.numeralValue digits
            some (if negative then -size else size, rest.dropWhile Char.isDigit)
      else none
  | [] => none

/-- The digits of a fraction, if they stand here. -/
def takeFraction (text : Text) : Option (Text × Text) :=
  match text with
  | '.' :: rest =>
      match rest.takeWhile Char.isDigit with
      | [] => none
      | digits => some (digits, rest.dropWhile Char.isDigit)
  | _ => none

/-- A number after its sign. -/
def readNumber (negative : Bool) (text : Text) : Except ReadError (Json × Text) :=
  match text.takeWhile Char.isDigit with
  | [] => .error .malformed
  | first :: more =>
      let digits := if first = '0' then ['0'] else first :: more
      let rest := text.drop digits.length
      let fraction := takeFraction rest
      let afterFraction := (fraction.map (·.2)).getD rest
      let exponent := takeExponent afterFraction
      let remaining := (exponent.map (·.2)).getD afterFraction
      if fraction.isNone && exponent.isNone then
        match Text.readNumeral digits with
        | .ok size => .ok (integer (if negative then -(size : Int) else size), remaining)
        | .error fault => .error (.tooLong fault)
      else
        let places := (fraction.map (·.1)).getD []
        .ok (decimal ⟨negative, Text.numeralValue (digits ++ places),
          (exponent.map (·.1)).getD 0 - places.length⟩, remaining)

/-! ## Values -/

/-- The fixed words with their values. -/
def fixedWords : List (Text × Json) := [
  ("null".toList, null), ("true".toList, bool true), ("false".toList, bool false),
  ("NaN".toList, notANumber), ("Infinity".toList, infinite false),
  ("-Infinity".toList, infinite true)]

/-- A fixed word or a number. -/
def readScalar (text : Text) : Except ReadError (Json × Text) :=
  match fixedWords.findSome? fun (word, value) => (Text.after? word text).map (value, ·) with
  | some taken => .ok taken
  | none =>
      match text with
      | '-' :: rest => readNumber true rest
      | _ => readNumber false text

mutual

/-- A value. The fuel bounds the parts that may still be read, and the room the arrays and objects
that may still be opened one in the other. -/
def readValue : Nat → Nat → Text → Except ReadError (Json × Text)
  | 0, _, _ => .error .malformed
  | fuel + 1, room, text =>
      match text with
      | '"' :: rest => do
          let (value, rest) ← readString rest
          return (string value, rest)
      | '[' :: rest =>
          match room with
          | 0 => .error .tooDeep
          | room + 1 =>
              match skip rest with
              | ']' :: rest => .ok (array [], rest)
              | rest => do
                  let (items, rest) ← readItems fuel room rest
                  return (array items, rest)
      | '{' :: rest =>
          match room with
          | 0 => .error .tooDeep
          | room + 1 =>
              match skip rest with
              | '}' :: rest => .ok (object [], rest)
              | rest => do
                  let (members, rest) ← readMembers fuel room rest
                  return (object (Dictionary.ofPairs members), rest)
      | text => readScalar text

/-- The items of an array up to its end. -/
def readItems : Nat → Nat → Text → Except ReadError (List Json × Text)
  | 0, _, _ => .error .malformed
  | fuel + 1, room, text => do
      let (item, rest) ← readValue fuel room text
      match skip rest with
      | ']' :: rest => return ([item], rest)
      | ',' :: rest =>
          let (items, rest) ← readItems fuel room (skip rest)
          return (item :: items, rest)
      | _ => .error .malformed

/-- The members of an object up to its end. -/
def readMembers : Nat → Nat → Text → Except ReadError (List (Text × Json) × Text)
  | 0, _, _ => .error .malformed
  | fuel + 1, room, text =>
      match text with
      | '"' :: rest => do
          let (key, rest) ← readString rest
          match skip rest with
          | ':' :: rest =>
              let (value, rest) ← readValue fuel room (skip rest)
              match skip rest with
              | '}' :: rest => return ([(key, value)], rest)
              | ',' :: rest =>
                  let (members, rest) ← readMembers fuel room (skip rest)
                  return ((key, value) :: members, rest)
              | _ => .error .malformed
          | _ => .error .malformed
      | _ => .error .malformed

end

/-- The value of a text, with white space around it. No more arrays and objects than the limit are
followed one in the other. -/
def read (limit : Nat) (text : Text) : Except ReadError Json := do
  let (value, rest) ← readValue (2 * text.length + 1) limit (skip text)
  if skip rest = [] then return value else .error .malformed

end PatchSurvey.Json
