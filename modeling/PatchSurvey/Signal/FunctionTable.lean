import PatchSurvey.Signal.ControlFlow
import PatchSurvey.Signal.Language

/-! # Function headers

Each language lists the shapes of its function headers, declarations before
expressions before methods. The first shape that covers a line gives its form. -/

namespace PatchSurvey

/-- The syntactic forms of a function header. -/
inductive Form where
  | declaration
  | expression
  | method
deriving DecidableEq, Repr

/-- The name of a form. -/
def Form.name : Form → Text
  | .declaration => "declaration".toList
  | .expression => "expression".toList
  | .method => "method".toList

/-- Header shapes in the order in which they are tried. -/
abbrev HeaderTable := List (Form × Pattern)

namespace HeaderTable

open Pattern

/-- A name bound to a constant or a variable. -/
def binding : Pattern :=
  row [indent, modifier "export", oneKeyword ["const", "let", "var"], name, blanks]

/-- The rest of a function expression from its keyword on. -/
def functionExpression : Pattern :=
  row [exactly "function", wordEdge, blanks, mark "*", blanks, many wordChar, blanks, exactly "("]

/-- Header shapes of JavaScript. -/
def js : HeaderTable := [
  (.declaration, row [indent, modifier "export", modifier "default", modifier "async",
    exactly "function", wordEdge, blanks, mark "*", blanks, name, blanks, exactly "("]),
  (.expression, row [binding, exactly "=", blanks, optional (row [exactly "async", blanks]),
    either (enclosed "(" ")" ")") name, blanks, exactly "=>"]),
  (.expression, row [binding, exactly "=", blanks, modifier "async", functionExpression]),
  (.method, row [indent, modifier "static", modifier "async",
    optional (either (keyword "get") (keyword "set")), mark "*", blanks, name, blanks,
    enclosed "(" "()" ")", blanks, exactly "\x7b"])]

/-- Header shapes of TypeScript. -/
def ts : HeaderTable := [
  (.declaration, row [indent, modifier "export", modifier "default", modifier "declare",
    modifier "async", exactly "function", wordEdge, blanks, mark "*", blanks, name, blanks,
    optional (wide "<" ">"), blanks, exactly "("]),
  (.expression, row [binding, annotation, exactly "=", blanks,
    optional (row [exactly "async", blanks]), optional (row [enclosed "<" ">" ">", blanks]),
    either (enclosed "(" ")" ")") name, blanks, annotation, exactly "=>"]),
  (.expression, row [binding, annotation, exactly "=", blanks, modifier "async",
    functionExpression]),
  (.method, row [indent,
    many (oneKeyword ["public", "private", "protected", "static", "readonly", "abstract",
      "override", "async"]),
    optional (either (keyword "get") (keyword "set")), mark "*", blanks, name, blanks,
    optional (wide "<" ">"), blanks, enclosed "(" "()" ")", blanks,
    optional (row [exactly ":", oneOrMore (except "\x7b;")]), exactly "\x7b"])]

/-- Header shapes of Python. -/
def py : HeaderTable := [
  (.declaration, row [indent, modifier "async", keyword "def", name, blanks, exactly "("]),
  (.expression, row [indent, name, blanks, annotation, exactly "=", blanks, exactly "lambda",
    wordEdge])]

/-- Annotations before a header. -/
def javaAnnotations : Pattern :=
  many (row [exactly "@", name, optional (enclosed "(" ")" ")"), gap])

/-- A type with type arguments and array brackets. -/
def javaType : Pattern :=
  row [oneOrMore (wordOr ".$"), optional (enclosed "<" ";()\x7b\x7d" ">"), many (exactly "[]")]

/-- Type parameters before a result type. -/
def javaParameters : Pattern :=
  optional (row [exactly "<", oneOrMore (except ">"), exactly ">", gap])

/-- Header shapes of Java. -/
def java : HeaderTable := [
  (.declaration, row [indent, javaAnnotations,
    oneOrMore (oneKeyword ["public", "private", "protected", "static", "final", "abstract",
      "synchronized", "native", "default"]),
    javaParameters, optional (row [javaType, gap]), name, blanks, exactly "(",
    many (except ";"), textEnd]),
  (.method, row [indent, javaAnnotations, javaParameters, javaType, gap, name, blanks,
    enclosed "(" ";" ")", blanks,
    optional (row [exactly "throws", gap, oneOrMore (one fun c =>
      Text.isWord c || c == '.' || c == ',' || Text.isBlank c)]),
    mark "\x7b", blanks, textEnd])]

/-- Header shapes of Go. -/
def go : HeaderTable := [
  (.declaration, row [indent, keyword "func",
    optional (row [exactly "(", blanks, many wordChar, blanks, mark "*", oneOrMore (wordOr "."),
      optional (enclosed "[" "]" "]"), blanks, exactly ")", blanks]),
    name, blanks, optional (enclosed "[" "]" "]"), blanks, exactly "("]),
  (.expression, row [indent, name, blanks, mark ":", exactly "=", blanks, exactly "func", blanks,
    exactly "("])]

/-- A visibility with its scope. -/
def rustVisibility : Pattern :=
  optional (row [exactly "pub", optional (enclosed "(" ")" ")"), gap])

/-- Header shapes of Rust. -/
def rust : HeaderTable := [
  (.declaration, row [indent, rustVisibility, modifier "default", modifier "const",
    modifier "async", modifier "unsafe",
    optional (row [keyword "extern", optional (row [enclosed "\"" "\"" "\"", gap])]),
    keyword "fn", name, blanks, optional (wide "<" ">"), blanks, exactly "("]),
  (.expression, row [indent, keyword "let", modifier "mut", name, blanks, annotation, exactly "=",
    blanks, modifier "async", modifier "move", enclosed "|" "|" "|"])]

/-- Header shapes of Ruby. -/
def ruby : HeaderTable := [
  (.declaration, row [indent, keyword "def", mark "self.", name, optional (among "?!=")]),
  (.expression, row [indent, exactly "define", mark "_singleton", exactly "_method", blanks,
    mark "(", blanks, exactly ":", name])]

end HeaderTable

namespace Language

/-- The header shapes of a language. -/
def headers : Language → HeaderTable
  | js => HeaderTable.js
  | ts => HeaderTable.ts
  | py => HeaderTable.py
  | java => HeaderTable.java
  | go => HeaderTable.go
  | rust => HeaderTable.rust
  | ruby => HeaderTable.ruby

/-- The form of the function header that a line holds. -/
def headerForm? (language : Language) (line : Text) : Option Form :=
  if isControlFlow line then none
  else (language.headers.find? (·.2.search line)).map (·.1)

end Language

end PatchSurvey
