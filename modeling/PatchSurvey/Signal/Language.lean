import PatchSurvey.Text.Basic

/-! # Languages with pattern tables

Every table covers the same seven languages, so a tag has all tables or none. -/

namespace PatchSurvey

/-- A language whose lines can be recognised. -/
inductive Language where
  | js
  | ts
  | py
  | java
  | go
  | rust
  | ruby
deriving DecidableEq, Repr

namespace Language

/-- All languages. -/
def all : List Language :=
  [js, ts, py, java, go, rust, ruby]

/-- The tag under which the tables list a language. -/
def tag : Language → Text
  | js => "js".toList
  | ts => "ts".toList
  | py => "py".toList
  | java => "java".toList
  | go => "go".toList
  | rust => "rust".toList
  | ruby => "ruby".toList

/-- The language of a tag. -/
def ofTag? (key : Text) : Option Language :=
  all.find? (·.tag = key)

@[simp] theorem ofTag?_tag (language : Language) : ofTag? language.tag = some language := by
  cases language <;> decide

theorem ofTag?_eq_some_iff {key : Text} {language : Language} :
    ofTag? key = some language ↔ key = language.tag := by
  constructor
  · intro found
    simpa [eq_comm] using List.find?_some found
  · rintro rfl
    exact ofTag?_tag language

end Language

end PatchSurvey
