import PatchSurvey.Json.Basic
import PatchSurvey.Log.Level
import PatchSurvey.Signal.Check

/-! # Log events

What the analysis reports about its own work. An event is a value; writing it
down is left to a log. -/

namespace PatchSurvey

/-- A report about the work. -/
inductive Event where
  /-- A check has no table for the language. -/
  | noPatterns (language : Text) (check : Check)
  /-- A patch was analyzed. -/
  | analyzed (path : Option Text) (language : Text) (added deleted newFunctions : Nat)
  /-- All files of a batch were seen. -/
  | batchFinished (analyzed skipped : Nat)
  /-- A file of a batch has no readable patch. -/
  | skipped (path status details : Text)
  /-- A file of a batch failed in another way. -/
  | failed (path status : Text)

/-- An entry of a log: its level, its message and further fields. -/
structure LogEntry where
  level : LogLevel
  message : Text
  fields : Dictionary Json

/-- A text, or null where there is none. -/
def Json.optional : Option Text → Json
  | some value => .string value
  | none => .null

/-- A natural number. -/
def Json.count (n : Nat) : Json :=
  .integer n

/-- The entry of an event. -/
def Event.entry : Event → LogEntry
  | noPatterns language check => {
      level := .warning
      message := "No patterns defined for language".toList
      fields := [("language".toList, .string language), ("matcher".toList, .string check.name)] }
  | analyzed path language added deleted newFunctions => {
      level := .debug
      message := "Diff analyzed".toList
      fields := [("file_path".toList, .optional path), ("language".toList, .string language),
        ("added".toList, .count added), ("deleted".toList, .count deleted),
        ("new_functions".toList, .count newFunctions)] }
  | batchFinished done left => {
      level := .info
      message := "Batch analysis finished".toList
      fields := [("analyzed".toList, .count done), ("skipped".toList, .count left)] }
  | skipped path status details => {
      level := .warning
      message := "Skipping unparseable diff".toList
      fields := [("file_path".toList, .string path), ("file_status".toList, .string status),
        ("error_details".toList, .string details)] }
  | failed path status => {
      level := .error
      message := "Unexpected failure analyzing diff".toList
      fields := [("file_path".toList, .string path), ("file_status".toList, .string status),
        ("exc_info".toList, .bool true)] }

/-- A value with the events on the way to it, in order. -/
structure Logged (α : Type) where
  value : α
  events : List Event

namespace Logged

variable {α β : Type}

/-- Change the value. -/
def map (f : α → β) (logged : Logged α) : Logged β :=
  ⟨f logged.value, logged.events⟩

/-- The values of a row of steps, with the events of all. -/
def gather (steps : List (Logged α)) : Logged (List α) :=
  ⟨steps.map (·.value), steps.flatMap (·.events)⟩

end Logged

end PatchSurvey
