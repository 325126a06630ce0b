import PatchSurvey.Text.Basic

/-! # Field names of records

A field has a name on the wire and a plain name. -/

namespace PatchSurvey

/-- The fields of a record and of its parts. -/
inductive Field where
  | addedLines
  | deletedLines
  | filename
  | language
  | isTestFile
  | functionMatches
  | importMatches
  | testDeclarationMatches
  | languageSupported
  | hasNewFunctions
  | matchedLines
  | lineNumbers
  | lineNumber
  | content
deriving DecidableEq, Repr

namespace Field

/-- The name on the wire. -/
def wire : Field → Text
  | addedLines => "addedLines".toList
  | deletedLines => "deletedLines".toList
  | filename => "filename".toList
  | language => "language".toList
  | isTestFile => "isTestFile".toList
  | functionMatches => "functionMatches".toList
  | importMatches => "importMatches".toList
  | testDeclarationMatches => "testDeclarationMatches".toList
  | languageSupported => "languageSupported".toList
  | hasNewFunctions => "hasNewFunctions".toList
  | matchedLines => "matchedLines".toList
  | lineNumbers => "lineNumbers".toList
  | lineNumber => "lineNumber".toList
  | content => "content".toList

/-- The plain name. -/
def plain : Field → Text
  | addedLines => "added_lines".toList
  | deletedLines => "deleted_lines".toList
  | filename => "filename".toList
  | language => "language".toList
  | isTestFile => "is_test_file".toList
  | functionMatches => "function_matches".toList
  | importMatches => "import_matches".toList
  | testDeclarationMatches => "test_declaration_matches".toList
  | languageSupported => "language_supported".toList
  | hasNewFunctions => "has_new_functions".toList
  | matchedLines => "matched_lines".toList
  | lineNumbers => "line_numbers".toList
  | lineNumber => "line_number".toList
  | content => "content".toList

end Field

end PatchSurvey
