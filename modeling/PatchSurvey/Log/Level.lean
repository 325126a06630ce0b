import PatchSurvey.Text.Case

/-! # Log levels

Five levels with their weights. A threshold is a weight: what weighs less is
dropped. -/

namespace PatchSurvey

/-- The weight class of an event. -/
inductive LogLevel where
  | debug
  | info
  | warning
  | error
  | critical
deriving DecidableEq, Repr

namespace LogLevel

/-- All levels, the lightest first. -/
def all : List LogLevel :=
  [debug, info, warning, error, critical]

/-- The weight of a level. -/
def weight : LogLevel → Nat
  | debug => 10
  | info => 20
  | warning => 30
  | error => 40
  | critical => 50

/-- The name of a level in entries. -/
def name : LogLevel → Text
  | debug => "debug".toList
  | info => "info".toList
  | warning => "warning".toList
  | error => "error".toList
  | critical => "critical".toList

/-- The name of a level in settings. -/
def settingName : LogLevel → Text
  | debug => "DEBUG".toList
  | info => "INFO".toList
  | warning => "WARNING".toList
  | error => "ERROR".toList
  | critical => "CRITICAL".toList

/-- The level whose name in settings is the upper-case form of a text. -/
def ofSetting? (text : Text) : Option LogLevel :=
  all.find? (·.settingName = Text.upper text)

/-- The level of a name in entries. -/
def ofName? (text : Text) : Option LogLevel :=
  all.find? (·.name = text)

/-- Further names of thresholds. -/
def thresholdNames : List (Text × Nat) :=
  all.map (fun level => (level.settingName, level.weight)) ++
    [("FATAL".toList, critical.weight), ("WARN".toList, warning.weight), ("NOTSET".toList, 0)]

/-- The threshold of a name in any case; the weight of `info` for an unknown name. -/
def threshold (text : Text) : Nat :=
  ((thresholdNames.find? (·.1 = Text.upper text)).map (·.2)).getD info.weight

end LogLevel

end PatchSurvey
