import PatchSurvey.Hunk.Header

/-! # The path on a boundary line

A boundary line names both sides of a file. With side marks the last ` b/`
separates them, so that paths may hold spaces; without side marks neither path
holds a blank. -/

namespace PatchSurvey.ChangeSet

/-- Cut at the last ` b/` that something follows. -/
def lastSides? : Text → Option (Text × Text)
  | [] => none
  | c :: text =>
      match lastSides? text with
      | some (old, new) => some (c :: old, new)
      | none =>
          match Text.after? " b/".toList (c :: text) with
          | some (d :: new) => some ([], d :: new)
          | _ => none

/-- The new path after `a/`: the old path has a character, and blanks end the line. -/
def markedPath? : Text → Option Text
  | [] => none
  | _ :: text =>
      match lastSides? text with
      | some (_, c :: new) => some (c :: Text.trimEnd new)
      | _ => none

/-- The new path of two paths without blanks. -/
def barePath? (text : Text) : Option Text :=
  let visible (c : Char) : Bool := !Text.isBlank c
  match text.takeWhile visible, text.dropWhile visible with
  | _ :: _, ' ' :: rest =>
      match rest.takeWhile visible with
      | [] => none
      | new => if (rest.dropWhile visible).all Text.isBlank then some new else none
  | _, _ => none

/-- The new-side path on the boundary line of a patch. -/
def boundaryPath? (patch : Text) : Option Text :=
  let line := Text.dropReturn (patch.takeWhile (· ≠ '\n'))
  match (Text.after? (Hunk.boundaryMark ++ "a/".toList) line).bind markedPath? with
  | some path => some path
  | none => (Text.after? Hunk.boundaryMark line).bind barePath?

end PatchSurvey.ChangeSet
