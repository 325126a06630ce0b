import PatchSurvey.Json.Writer
import PatchSurvey.Text.Case

/-! # Renderers

Entries are printed for machines or for people. An explicit format decides; else
the environment does. A renderer fails at an integer that is not written. -/

namespace PatchSurvey

/-- How entries are printed. -/
inductive Renderer where
  | json
  | console
deriving DecidableEq, Repr

/-- What one entry prints. -/
inductive Printed where
  /-- A line for people. -/
  | console
  /-- The fields of a machine-readable line. -/
  | fields (members : Dictionary Json)

/-- A renderer failed: the name of the failure, and its wording. -/
structure RenderFault where
  kind : Text
  message : Text
deriving DecidableEq, Repr

/-- A failure with its name before it. -/
def RenderFault.reason (fault : RenderFault) : Text :=
  fault.kind ++ ": ".toList ++ fault.message

/-- What renderers make of the fields of an entry. -/
abbrev Rendering :=
  Renderer → Dictionary Json → Except RenderFault Printed

namespace Renderer

/-- The name of a renderer. -/
def name : Renderer → Text
  | json => "json".toList
  | console => "console".toList

/-- Environments whose logs are read by machines. -/
def machineEnvironments : List Text :=
  ["qa", "staging", "prod", "production"].map String.toList

/-- The renderer for a format and an environment, both in any case. -/
def select (format environment : Text) : Renderer :=
  if Text.lower format = json.name then json
  else if Text.lower format = console.name then console
  else if Text.lower environment ∈ machineEnvironments then json
  else console

/-- The rendering that fails at integers with too many digits, and nowhere else. -/
def render : Rendering := fun renderer fields =>
  if Json.hasOverlong (.object fields) then
    .error ⟨"ValueError".toList, NumberTooLong.message {}⟩
  else match renderer with
    | json => .ok (.fields fields)
    | console => .ok .console

end Renderer

end PatchSurvey
