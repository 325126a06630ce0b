import PatchSurvey.Log.Renderer

/-! # Printing

What is printed on the way to a value. Where a renderer fails, what was printed before
stays printed, and the failure takes the place of the value. -/

namespace PatchSurvey

/-- What was printed, and the value or the failure at the end. -/
structure Printing (α : Type) where
  printed : List Printed
  result : Except RenderFault α

namespace Printing

variable {α β : Type}

/-- A value without printing. -/
def pure (value : α) : Printing α :=
  ⟨[], .ok value⟩

/-- Go on from a value. A failure ends the printing. -/
def bind (first : Printing α) (next : α → Printing β) : Printing β :=
  match first.result with
  | .ok value => ⟨first.printed ++ (next value).printed, (next value).result⟩
  | .error fault => ⟨first.printed, .error fault⟩

instance : Monad Printing where
  pure := pure
  bind := bind

/-- Go on from a failure. -/
def handle (first : Printing α) (next : RenderFault → Printing α) : Printing α :=
  match first.result with
  | .ok _ => first
  | .error fault => ⟨first.printed ++ (next fault).printed, (next fault).result⟩

end Printing

end PatchSurvey
