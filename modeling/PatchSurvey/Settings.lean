import PatchSurvey.Log.Level
import PatchSurvey.Path.Aliases
import PatchSurvey.Report.Scalar

/-! # Settings

Settings come from given values and from an environment whose names are compared
without case; given values win. A setting that is absent has a default. All faults
of settings are reported together, but loading ends without a report at aliases that
lie too deep to be read. -/

namespace PatchSurvey

/-- The settings of a service. -/
structure Settings where
  logLevel : LogLevel
  logFormat : Text
  appEnv : Text
  aliases : Path.Aliases
deriving DecidableEq, Repr

/-- Settings were refused. -/
structure ConfigurationError where
  faults : List Fault
deriving DecidableEq, Repr

/-- Why the text of aliases was not read, without a fault of its own. -/
inductive Unread where
  /-- More arrays and objects are open than can be followed. -/
  | tooDeep
  /-- A string has a half of a pair, and is no text. -/
  | halfPair
deriving DecidableEq, Repr

/-- Why settings were not loaded. -/
inductive LoadError where
  /-- Settings were refused. -/
  | configuration (error : ConfigurationError)
  /-- Loading ended before the settings were checked. -/
  | unread (cause : Unread)
deriving DecidableEq, Repr

/-- The first line about refused settings. -/
def ConfigurationError.message (error : ConfigurationError) : Text :=
  "Invalid analyzer settings: ".toList ++ Text.ofNat error.faults.length ++
    (if error.faults.length = 1 then " validation error" else " validation errors").toList ++
    " for AnalyzerSettings".toList

namespace Settings

/-- The last variable of an environment with the given name in any case. -/
def lookUp? (environment : List (Text × Text)) (name : String) : Option Text :=
  (environment.reverse.find? fun entry => Text.lower entry.1 = Text.lower name.toList).map (·.2)

/-- The value of a setting: a given one, else a variable. -/
def source? (environment : List (Text × Text)) (given : Dictionary Json) (name : String) :
    Option Json :=
  (given.get? name.toList).or ((lookUp? environment name).map .string)

/-- A log level by its name in any case. -/
def checkLevel : Json → Checked LogLevel
  | .string name =>
      match LogLevel.ofSetting? name with
      | some level => .valid level
      | none => .fail (.unknownLogLevel name)
  | _ => .fail .notString

/-- Aliases, each a string under its tag. -/
def checkPairs (members : Dictionary Json) : Checked Path.Aliases :=
  .all (members.map fun (tag, key) =>
    (key.checkString.under (.key tag)).map (tag, ·))

/-- Aliases: an object, or a text that is blank or holds one. Other values give none. -/
def checkAliases (limit : Nat) : Json → Except Unread (Checked Path.Aliases)
  | .string text =>
      if text.all Text.isBlank then .ok (.valid [])
      else match Json.read limit text with
        | .ok (.object members) => .ok (checkPairs members)
        | .ok value => .ok (.fail (.notObject value.kind))
        | .error .malformed => .ok (.fail .notJson)
        | .error (.tooLong fault) => .ok (.fail (.tooLong fault))
        | .error .tooDeep => .error .tooDeep
        | .error .halfPair => .error .halfPair
  | .object members => .ok (checkPairs members)
  | _ => .ok (.valid [])

/-- Check a setting that may be absent. -/
def checkSetting {α : Type} (value : Option Json) (name : String) (check : Json → Checked α)
    (default : α) : Checked α :=
  match value with
  | some value => (check value).under (.key name.toList)
  | none => .valid default

/-- Check the aliases, which may be absent. -/
def checkAliasSetting (limit : Nat) : Option Json → Except Unread (Checked Path.Aliases)
  | some value => (checkAliases limit value).map (·.under (.key "DIFF_LANGUAGE_ALIASES".toList))
  | none => .ok (.valid [])

/-- The settings of an environment and of given values. The limit is that of reading aliases. -/
def load (limit : Nat) (environment : List (Text × Text)) (given : Dictionary Json) :
    Except Unread (Checked Settings) := do
  let read {α : Type} (name : String) (check : Json → Checked α) (default : α) : Checked α :=
    checkSetting (source? environment given name) name check default
  let aliases ← checkAliasSetting limit (source? environment given "DIFF_LANGUAGE_ALIASES")
  return ((((read "LOG_LEVEL" checkLevel .info).map Settings.mk).both
    (read "LOG_FORMAT" Json.checkString [])).both
    (read "APP_ENV" Json.checkString "local".toList)).both aliases

/-- The settings of an environment, or one error with all faults. -/
def ofEnvironment (limit : Nat) (environment : List (Text × Text)) : Except LoadError Settings :=
  match load limit environment [] with
  | .ok (.valid settings) => .ok settings
  | .ok (.invalid faults) => .error (.configuration ⟨faults⟩)
  | .error cause => .error (.unread cause)

end Settings

end PatchSurvey
