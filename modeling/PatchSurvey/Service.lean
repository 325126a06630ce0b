import PatchSurvey.Analysis.Batch
import PatchSurvey.Log.State
import PatchSurvey.Settings

/-! # The service

A service is started from settings: it sets up the log, takes the configured
aliases, and reports that it is ready. -/

namespace PatchSurvey

/-- A started service. -/
structure Service where
  aliases : Path.Aliases
  log : LogState

namespace Service

/-- The first text does not come after the second: the first character that differs decides. -/
def precedes : Text → Text → Bool
  | [], _ => true
  | _ :: _, [] => false
  | c :: first, d :: second =>
      if c.toNat = d.toNat then precedes first second else c.toNat < d.toNat

/-- Texts in the order of their code points. -/
def sorted (texts : List Text) : List Text :=
  texts.mergeSort precedes

/-- The report that a service with the given settings is ready. -/
def readyEntry (settings : Settings) : LogEntry :=
  .ofComponent "container".toList .info "Diff analyzer ready".toList
    [("custom_aliases".toList, .array ((sorted (settings.aliases.map (·.1))).map .string))]

/-- Start a service, and what that prints. -/
def start (render : Rendering) (time : Text) (settings : Settings) (log : LogState) :
    Service × Printing Unit :=
  let log := log.configure settings.logLevel.settingName settings.logFormat settings.appEnv
  (⟨Path.effectiveAliases settings.aliases, log⟩, log.print render time (readyEntry settings))

end Service

end PatchSurvey
