import PatchSurvey.Pattern.Basic

/-! # Pieces of line patterns

Names for the stretches that recur in the tables of the languages. -/

namespace PatchSurvey.Pattern

/-- The start of a line with its indentation. -/
def indent : Pattern :=
  row [textStart, blanks]

/-- A word and the gap after it. -/
def keyword (word : String) : Pattern :=
  row [exactly word, gap]

/-- A word and the gap after it, or nothing. -/
def modifier (word : String) : Pattern :=
  optional (keyword word)

/-- One of the words and the gap after it. -/
def oneKeyword (list : List String) : Pattern :=
  row [words list, gap]

/-- From an opening mark to the next closing one, with none of the stops between them. -/
def enclosed (left stops right : String) : Pattern :=
  row [exactly left, many (except stops), exactly right]

/-- From an opening mark to a closing one on the same line. -/
def wide (left right : String) : Pattern :=
  enclosed left "\n" right

/-- A type after a colon, up to the next equals sign. -/
def annotation : Pattern :=
  optional (row [exactly ":", oneOrMore (except "=")])

/-- A mark that may stand or not. -/
def mark (sign : String) : Pattern :=
  optional (exactly sign)

/-- A single or a double quote. -/
def quote : Pattern :=
  among "'\""

end PatchSurvey.Pattern
