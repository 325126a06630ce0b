import PatchSurvey.Pattern.Search
import PatchSurvey.Signal.Language
import PatchSurvey.Signal.Pieces

/-! # Imports

Lines that bring names of another module or package into a file. -/

namespace PatchSurvey

namespace ImportTable

open Pattern

/-- Import shapes of JavaScript and TypeScript. -/
def js : List Pattern := [
  row [indent, keyword "import", modifier "type",
    optional (row [oneOrMore (one fun c =>
      Text.isWord c || Text.isBlank c || "*\x7b\x7d,$".toList.contains c),
      gap, exactly "from", gap]),
    quote],
  row [indent, keyword "import", modifier "type", exactly "\x7b", many (except "\x7d"), textEnd],
  row [indent, keyword "export", modifier "type",
    either (exactly "*") (enclosed "\x7b" "\x7d" "\x7d"),
    optional (row [gap, exactly "as", gap, name]), gap, exactly "from", gap, quote],
  row [wordEdge, exactly "require", blanks, exactly "(", blanks, among "'\"`"]]

/-- Import shapes of Python. -/
def py : List Pattern := [
  row [indent, keyword "import", oneOrMore (wordOr ".")],
  row [indent, keyword "from", oneOrMore (wordOr "."), gap, exactly "import", wordEdge]]

/-- Import shapes of Java. -/
def java : List Pattern := [
  row [indent, keyword "import", modifier "static", oneOrMore (wordOr "."), mark ".*", blanks,
    exactly ";"]]

/-- Import shapes of Go. The second is a path inside a block, with an optional alias. -/
def go : List Pattern := [
  row [indent, keyword "import",
    either (exactly "(") (row [optional (row [oneOrMore (wordOr "."), gap]), exactly "\""])],
  row [indent,
    optional (row [unlessNext (row [exactly "return", wordEdge]), oneOrMore (wordOr "."), gap]),
    exactly "\"", oneOrMore (wordOr ".~/-"), exactly "\"", blanks, textEnd]]

/-- Import shapes of Rust. -/
def rust : List Pattern := [
  row [indent, optional (row [exactly "pub", optional (enclosed "(" ")" ")"), gap]),
    keyword "use", wordOr ":\x7b"],
  row [indent, keyword "extern", keyword "crate", name]]

/-- Import shapes of Ruby. -/
def ruby : List Pattern := [
  row [indent, words ["require", "require_relative", "load"], blanks, mark "(", blanks, quote]]

end ImportTable

namespace Language

/-- The import shapes of a language. -/
def importShapes : Language → List Pattern
  | js | ts => ImportTable.js
  | py => ImportTable.py
  | java => ImportTable.java
  | go => ImportTable.go
  | rust => ImportTable.rust
  | ruby => ImportTable.ruby

/-- The line is an import. -/
def isImport (language : Language) (line : Text) : Bool :=
  language.importShapes.any (·.search line)

end Language

end PatchSurvey
