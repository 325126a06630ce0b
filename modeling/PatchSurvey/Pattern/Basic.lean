import PatchSurvey.Text.Basic
import PatchSurvey.Text.Digit
import PatchSurvey.Text.Word

/-! # Patterns of text

A pattern is plain data. Its meaning is the relation `Spans`: which stretches
of a text, from one place to another, the pattern covers. Whether a stretch is
covered never depends on the order in which alternatives are tried. -/

namespace PatchSurvey

/-- A place inside a text: the character just read, if any, and what is still ahead. -/
@[ext]
structure Place where
  last : Option Char
  rest : Text

/-- The shape of a stretch of text. -/
inductive Pattern where
  /-- The empty stretch. -/
  | nothing
  /-- One character of a class. -/
  | one (accepts : Char → Bool)
  /-- A stretch of the first pattern, then one of the second. -/
  | both (first second : Pattern)
  /-- A stretch of either pattern. -/
  | either (first second : Pattern)
  /-- Any number of stretches in a row. -/
  | many (body : Pattern)
  /-- The empty stretch at the start of the text. -/
  | textStart
  /-- The empty stretch at the end of the text, or before a last line feed. -/
  | textEnd
  /-- The empty stretch between a word character and another character or an end. -/
  | wordEdge
  /-- The empty stretch where the pattern covers nothing that begins here. -/
  | unlessNext (body : Pattern)

/-- Any number of steps in a row. -/
inductive Chain {α : Type} (step : α → α → Prop) : α → α → Prop where
  | stop (a : α) : Chain step a a
  | more {a b c : α} (head : step a b) (tail : Chain step b c) : Chain step a c

namespace Place

/-- The character just read is a word character. -/
def afterWord (place : Place) : Bool :=
  place.last.any Text.isWord

/-- The next character is a word character. -/
def beforeWord (place : Place) : Bool :=
  place.rest.head?.any Text.isWord

end Place

namespace Pattern

/-- The pattern covers the stretch from the first place to the second. -/
def Spans : Pattern → Place → Place → Prop
  | nothing, a, b => b = a
  | one accepts, a, b => ∃ c rest, a.rest = c :: rest ∧ accepts c = true ∧ b = ⟨some c, rest⟩
  | both first second, a, b => ∃ m, Spans first a m ∧ Spans second m b
  | either first second, a, b => Spans first a b ∨ Spans second a b
  | many body, a, b => Chain (Spans body) a b
  | textStart, a, b => a.last = none ∧ b = a
  | textEnd, a, b => (a.rest = [] ∨ a.rest = ['\n']) ∧ b = a
  | wordEdge, a, b => a.afterWord ≠ a.beforeWord ∧ b = a
  | unlessNext body, a, b => (∀ m, ¬ Spans body a m) ∧ b = a

/-! ## Abbreviations -/

/-- The given characters in order. -/
def literal : Text → Pattern
  | [] => nothing
  | [c] => one (· = c)
  | c :: rest => both (one (· = c)) (literal rest)

/-- A word that is written out in a pattern. -/
def exactly (word : String) : Pattern :=
  literal word.toList

/-- The patterns one after the other. -/
def row : List Pattern → Pattern
  | [] => nothing
  | [last] => last
  | first :: rest => both first (row rest)

/-- One of the patterns. -/
def oneOf : List Pattern → Pattern
  | [] => unlessNext nothing
  | [last] => last
  | first :: rest => either first (oneOf rest)

/-- One of the words. -/
def words (list : List String) : Pattern :=
  oneOf (list.map exactly)

/-- The pattern or nothing. -/
def optional (body : Pattern) : Pattern :=
  either body nothing

/-- One or more stretches in a row. -/
def oneOrMore (body : Pattern) : Pattern :=
  both body (many body)

/-- Any character but the listed ones. -/
def except (stops : String) : Pattern :=
  let stops := stops.toList
  one fun c => !stops.contains c

/-- One of the listed characters. -/
def among (choices : String) : Pattern :=
  let choices := choices.toList
  one fun c => choices.contains c

/-- A word character or one of the listed characters. -/
def wordOr (extra : String) : Pattern :=
  let extra := extra.toList
  one fun c => Text.isWord c || extra.contains c

/-- One word character. -/
def wordChar : Pattern :=
  one Text.isWord

/-- One blank. -/
def blank : Pattern :=
  one Text.isBlank

/-- Any blanks. -/
def blanks : Pattern :=
  many blank

/-- At least one blank. -/
def gap : Pattern :=
  oneOrMore blank

/-- A row of word characters. -/
def name : Pattern :=
  oneOrMore wordChar

end Pattern

end PatchSurvey
