import PatchSurvey.Pattern.Search
import PatchSurvey.Signal.Pieces

/-! # Control flow

Lines that steer control or pass a value on are never function headers, even
where a general header pattern covers them. -/

namespace PatchSurvey

open Pattern in
/-- The shapes of control-flow lines. -/
def controlFlowTable : List Pattern := [
  row [indent, optional (row [exactly "\x7d", blanks]),
    oneOf [exactly "for", exactly "foreach", exactly "while", exactly "if",
      row [exactly "else", gap, exactly "if"], exactly "elif", exactly "else", exactly "switch",
      exactly "catch", exactly "with", exactly "until", exactly "unless"],
    blanks, exactly "("],
  row [indent, words ["return", "throw", "new", "await", "yield"], wordEdge],
  row [indent, exactly "delete", gap, wordOr "$"]]

/-- The line is a control-flow line. -/
def isControlFlow (line : Text) : Bool :=
  controlFlowTable.any (·.search line)

end PatchSurvey
