import PatchSurvey.Analysis.Basic
import PatchSurvey.Json.Writer
import PatchSurvey.Report.Field
import PatchSurvey.Report.Scalar

/-! # Records

The form in which an analysis is handed on. A record is written with the wire
names of its fields; a value that is checked against it may use the wire name or
the plain name of a field, and the wire name wins. -/

namespace PatchSurvey

/-- What a record says about new functions. -/
structure FunctionRecord where
  hasNewFunctions : Bool
  matchedLines : List Text
  lineNumbers : List Int
deriving DecidableEq, Repr

/-- An analysis in the form in which it is handed on. -/
structure Record where
  addedLines : List ChangedLine
  deletedLines : List ChangedLine
  filename : Option Text
  language : Text
  isTestFile : Bool
  functionMatches : FunctionRecord
  importMatches : List Text
  testDeclarationMatches : List Text
  languageSupported : Bool
deriving DecidableEq, Repr

namespace Record

/-- The record of an analysis. -/
def ofAnalysis (analysis : Analysis) : Record where
  addedLines := analysis.added
  deletedLines := analysis.deleted
  filename := analysis.filename
  language := analysis.language
  isTestFile := analysis.isTestFile
  functionMatches := ⟨analysis.functions.isSome, analysis.functions.lines,
    analysis.functions.numbers⟩
  importMatches := analysis.imports.lines
  testDeclarationMatches := analysis.tests.lines
  languageSupported := analysis.languageSupported

/-! ## Writing -/

/-- A list of texts. -/
def textsJson (texts : List Text) : Json :=
  .array (texts.map .string)

/-- A changed line on the wire. -/
def lineJson (line : ChangedLine) : Json :=
  .object [(Field.lineNumber.wire, .integer line.number),
    (Field.content.wire, .string line.content)]

/-- A record of functions on the wire. -/
def functionsJson (functions : FunctionRecord) : Json :=
  .object [(Field.hasNewFunctions.wire, .bool functions.hasNewFunctions),
    (Field.matchedLines.wire, textsJson functions.matchedLines),
    (Field.lineNumbers.wire, .array (functions.lineNumbers.map .integer))]

/-- A record on the wire. -/
def toJson (record : Record) : Json :=
  .object [
    (Field.addedLines.wire, .array (record.addedLines.map lineJson)),
    (Field.deletedLines.wire, .array (record.deletedLines.map lineJson)),
    (Field.filename.wire, match record.filename with
      | some name => .string name
      | none => .null),
    (Field.language.wire, .string record.language),
    (Field.isTestFile.wire, .bool record.isTestFile),
    (Field.functionMatches.wire, functionsJson record.functionMatches),
    (Field.importMatches.wire, textsJson record.importMatches),
    (Field.testDeclarationMatches.wire, textsJson record.testDeclarationMatches),
    (Field.languageSupported.wire, .bool record.languageSupported)]

/-- A record as text. -/
def write (indent : Option Nat) (record : Record) : Text :=
  Json.write indent record.toJson

/-! ## Checking -/

/-- The value of a field under its wire name or its plain name. -/
def find? (members : Dictionary Json) (field : Field) : Option Json :=
  (members.get? field.wire).or (members.get? field.plain)

/-- Check a field; where it is missing, take the default or report it. -/
def checkField {α : Type} (members : Dictionary Json) (field : Field)
    (check : Json → Checked α) (default : Option α) : Checked α :=
  match find? members field, default with
  | some value, _ => (check value).under (.key field.wire)
  | none, some value => .valid value
  | none, none => (Checked.fail .missing).under (.key field.wire)

/-- Check the members of an object. -/
def checkMembers {α : Type} (name : String) (check : Dictionary Json → Checked α) :
    Json → Checked α
  | .object members => check members
  | _ => .fail (.notRecord name)

/-- A changed line. -/
def checkLine : Json → Checked ChangedLine :=
  checkMembers "DiffLineSchema" fun members =>
    ((checkField members .lineNumber Json.checkInteger none).map ChangedLine.mk).both
      (checkField members .content Json.checkString none)

/-- A record of functions. -/
def checkFunctions : Json → Checked FunctionRecord :=
  checkMembers "FunctionMatchesSchema" fun members =>
    (((checkField members .hasNewFunctions Json.checkBool none).map FunctionRecord.mk).both
      (checkField members .matchedLines (Json.checkList Json.checkString) (some []))).both
      (checkField members .lineNumbers (Json.checkList Json.checkInteger) (some []))

/-- A record, with all faults of its fields in their order. -/
def check : Json → Checked Record :=
  checkMembers "AnalysisResultSchema" fun members =>
    let lines field := checkField members field (Json.checkList checkLine) (some [])
    let texts field := checkField members field (Json.checkList Json.checkString) (some [])
    let start := (lines .addedLines).map Record.mk
    let start := start.both (lines .deletedLines)
    let start := start.both (checkField members .filename Json.checkOptionalString (some none))
    let start := start.both (checkField members .language Json.checkString none)
    let start := start.both (checkField members .isTestFile Json.checkBool none)
    let start := start.both (checkField members .functionMatches checkFunctions none)
    let start := start.both (texts .importMatches)
    let start := start.both (texts .testDeclarationMatches)
    start.both (checkField members .languageSupported Json.checkBool none)

end Record

end PatchSurvey
