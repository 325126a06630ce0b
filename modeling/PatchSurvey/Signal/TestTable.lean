import PatchSurvey.Pattern.Search
import PatchSurvey.Signal.Language
import PatchSurvey.Signal.Pieces

/-! # Test declarations

Lines that open a test case or a suite of tests. -/

namespace PatchSurvey

namespace TestTable

open Pattern

/-- Test shapes of JavaScript and TypeScript. -/
def js : List Pattern := [
  row [indent, words ["describe", "it", "test", "context", "suite"],
    many (row [exactly ".", words ["only", "skip", "each", "concurrent", "todo"]]), blanks,
    among "(`"]]

/-- Test shapes of Python. -/
def py : List Pattern := [
  row [indent, modifier "async", keyword "def", exactly "test", many wordChar, blanks,
    exactly "("],
  row [indent, keyword "class", exactly "Test", many wordChar, blanks, among "(:"]]

/-- Test shapes of Java. -/
def java : List Pattern := [
  row [indent, exactly "@", words ["Test", "ParameterizedTest", "RepeatedTest", "TestFactory"],
    wordEdge]]

/-- Test shapes of Go. -/
def go : List Pattern := [
  row [indent, keyword "func", words ["Test", "Benchmark", "Fuzz", "Example"], many wordChar,
    blanks, exactly "("]]

/-- Test shapes of Rust. -/
def rust : List Pattern := [
  row [indent, exactly "#[", oneOf [
    exactly "cfg(test)",
    row [optional (row [name, exactly "::"]), exactly "test", wordEdge],
    row [exactly "rstest", wordEdge]]]]

/-- Test shapes of Ruby. -/
def ruby : List Pattern := [
  row [indent, mark "RSpec.", words ["describe", "context", "it", "specify"], wordEdge, blanks,
    wordOr "('\"\x7b"],
  row [indent, keyword "def", exactly "test_", many wordChar],
  row [indent, keyword "test", quote]]

end TestTable

namespace Language

/-- The test shapes of a language. -/
def testShapes : Language → List Pattern
  | js | ts => TestTable.js
  | py => TestTable.py
  | java => TestTable.java
  | go => TestTable.go
  | rust => TestTable.rust
  | ruby => TestTable.ruby

/-- The line declares a test. -/
def isTestDeclaration (language : Language) (line : Text) : Bool :=
  language.testShapes.any (·.search line)

end Language

end PatchSurvey
