import PatchSurvey.Text.Quoted

/-! # Sides of a change

A changed line was added or removed. -/

namespace PatchSurvey

/-- The two kinds of changed lines. -/
inductive Side where
  | added
  | removed
deriving DecidableEq, Repr

/-- A name that stands for no side. -/
structure UnknownSide where
  given : Text
deriving DecidableEq, Repr

/-- The wording of an unknown side. -/
def UnknownSide.message (error : UnknownSide) : Text :=
  Text.quoted error.given ++ " is not a valid LineMode".toList

namespace Side

/-- The name of a side. -/
def name : Side → Text
  | added => "added".toList
  | removed => "removed".toList

/-- The side of a name. -/
def ofName (given : Text) : Except UnknownSide Side :=
  if given = added.name then .ok added
  else if given = removed.name then .ok removed
  else .error ⟨given⟩

end Side

/-- A changed line. An added line has its post-change number; a removed line has the number
of the next new-file line. -/
structure ChangedLine where
  number : Int
  content : Text
deriving DecidableEq, Repr

end PatchSurvey
