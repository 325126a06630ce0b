import PatchSurvey.Proofs.Json.Depth
import PatchSurvey.Proofs.Settings.Aliases

/-! # Which settings load

An environment loads exactly if its level has a known name and its aliases are an object of
strings, by the grammar of JSON and within the bounds of the reader. Otherwise the faults of
the level come first, and then those of the aliases. Only a text that goes too deep, or one with
a half of a pair in a string, ends loading before the faults are known. -/

namespace PatchSurvey.Settings

open Json (Denotes Terms HasLongInteger HasHalfPair GoesTooDeep)

variable {limit : Nat}

/-! ## Levels -/

/-- Empty brackets within brackets. -/
def brackets (n : Nat) : Text :=
  List.replicate n '[' ++ List.replicate n ']'

end PatchSurvey.Settings
