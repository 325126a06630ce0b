import PatchSurvey.Pattern.Search

/-! # Test files

Naming conventions that mark a file as a test. They are case-sensitive. -/

namespace PatchSurvey.Path

open Pattern in
/-- The marks of a test file. -/
def testMarks : List Pattern := [
  exactly ".test.",
  exactly ".spec.",
  exactly "__tests__/",
  exactly "_test.",
  row [exactly ".test", textEnd],
  row [exactly ".spec", textEnd],
  row [either textStart (exactly "/"), exactly "test_", many (except "/"), exactly ".py", textEnd],
  row [exactly "_test.py", textEnd]]

/-- The path carries the mark of a test file. -/
def isTestFile (path : Text) : Bool :=
  testMarks.any (·.search path)

end PatchSurvey.Path
