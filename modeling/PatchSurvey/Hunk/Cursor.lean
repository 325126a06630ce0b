import PatchSurvey.Hunk.Header
import PatchSurvey.Hunk.Side

/-! # The position inside a hunk

A cursor knows the post-change number of the next new-file line and how many
lines of each side the header still promises. While a promise is open, marks that
imitate file headers are content. -/

namespace PatchSurvey

namespace Hunk

/-- What a line of a hunk does. -/
inductive LineKind where
  | added (content : Text)
  | removed (content : Text)
  | context
  | ignored
deriving DecidableEq, Repr

/-- Where a walk stands: outside every hunk, or before the new-file line `next` with `old` and
`new` promised lines left. -/
inductive Cursor where
  | outside
  | inside (next old new : Nat)
deriving DecidableEq, Repr

/-- What a line does, given whether lines are still promised. A blank context line may have lost its
single space. -/
def LineKind.of (promised : Bool) (line : Text) : LineKind :=
  match line with
  | '+' :: content =>
      if promised || !Text.startsWith "+++".toList line then .added content else .ignored
  | '-' :: content =>
      if promised || !Text.startsWith "---".toList line then .removed content else .ignored
  | ' ' :: _ => .context
  | [] => if promised then .context else .ignored
  | _ => .ignored

namespace Cursor

/-- The number of the next new-file line. -/
def counter? : Cursor → Option Nat
  | outside => none
  | inside next _ _ => some next

/-- The promised old lines that are left. -/
def oldLeft : Cursor → Nat
  | outside => 0
  | inside _ old _ => old

/-- The promised new lines that are left. -/
def newLeft : Cursor → Nat
  | outside => 0
  | inside _ _ new => new

/-- A promise is open. -/
def inBody (cursor : Cursor) : Bool :=
  cursor.oldLeft > 0 || cursor.newLeft > 0

/-- The cursor at the start of a hunk. -/
def start (header : Header) : Cursor :=
  inside header.newStart header.oldCount header.newCount

/-- Take lines off the promise, never below zero. -/
def consume (old new : Nat) : Cursor → Cursor
  | outside => outside
  | inside next oldLeft newLeft => inside next (oldLeft - old) (newLeft - new)

/-- Count one new-file line. -/
def count : Cursor → Cursor
  | outside => outside
  | inside next old new => inside (next + 1) old new

/-- Pass a line of the given kind. -/
def pass (kind : LineKind) (cursor : Cursor) : Cursor :=
  match kind with
  | .added _ => cursor.count.consume 0 1
  | .removed _ => cursor.consume 1 0
  | .context => cursor.count.consume 1 1
  | .ignored => cursor

/-- The changed line that a walk for one side records. -/
def record? (side : Side) (kind : LineKind) (cursor : Cursor) : Option ChangedLine :=
  match side, kind, cursor with
  | .added, .added content, inside next _ _ => some ⟨next, content⟩
  | .removed, .removed content, inside next _ _ => some ⟨next, content⟩
  | _, _, _ => none

/-- Read one line of a hunk: what is recorded for the side, and the cursor after it. -/
def read (side : Side) (line : Text) (cursor : Cursor) : Option ChangedLine × Cursor :=
  let kind := LineKind.of cursor.inBody line
  (cursor.record? side kind, cursor.pass kind)

end Cursor

end Hunk

end PatchSurvey
