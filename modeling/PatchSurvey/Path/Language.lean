import PatchSurvey.Path.Target
import PatchSurvey.Text.Case

/-! # Language tags

The tag of a file is the lower-case extension of its base name. -/

namespace PatchSurvey.Path

/-- The tag of a file without a usable extension. -/
def unknownLanguage : Text :=
  "unknown".toList

/-- The parts of a text before and after the last `mark`. -/
def splitLast? (mark : Char) : Text → Option (Text × Text)
  | [] => none
  | c :: text =>
      match splitLast? mark text with
      | some (before, after) => some (c :: before, after)
      | none => if c = mark then some ([], text) else none

/-- What follows the last slash. -/
def baseName (path : Text) : Text :=
  match splitLast? '/' path with
  | some (_, base) => base
  | none => path

/-- The language tag of a path. A name that only begins or only ends with its last dot has no
extension. -/
def languageOf (path : Text) : Text :=
  match splitLast? '.' (baseName path) with
  | some (_ :: _, c :: extension) => Text.lower (c :: extension)
  | _ => unknownLanguage

/-- The language tag of a patch. -/
def languageOfPatch (patch : Text) : Text :=
  match target? patch with
  | some path => languageOf path
  | none => unknownLanguage

end PatchSurvey.Path
