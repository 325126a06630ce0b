import PatchSurvey.Log.Event
import PatchSurvey.Signal.Matches

/-! # Looking for signals

A check keeps the added lines that carry its signal, in order, without the blanks
around them. -/

namespace PatchSurvey

/-- The lines that carry the signal, without the blanks around them. -/
def Check.entries (check : Check) (language : Language) (added : List ChangedLine) :
    List ChangedLine :=
  (added.filter fun line => check.accepts language line.content).map fun line =>
    { line with content := Text.trim line.content }

/-- The matches of a check among the added lines, for a table key. -/
def Check.find (check : Check) (key : Text) (added : List ChangedLine) : Logged Matches :=
  match Language.ofTag? key with
  | some language => ⟨⟨check.entries language added, true⟩, []⟩
  | none => ⟨.unsupported, [.noPatterns key check]⟩

end PatchSurvey
