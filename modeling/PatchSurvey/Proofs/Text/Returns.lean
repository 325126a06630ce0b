import PatchSurvey.Proofs.Text.Lines
import PatchSurvey.Proofs.Text.Trim

/-! # Carriage returns before line feeds

Some producers end a line by a carriage return and a line feed. The carriage
return is dropped with the line feed, or trimmed with the blanks at the end of
the line. -/

namespace PatchSurvey.Text

/-- Every line feed gets a carriage return before it. -/
def withReturns (text : Text) : Text :=
  text.flatMap fun c => if c = '\n' then ['\r', '\n'] else [c]

/-- No line ends with a carriage return. -/
def Unreturned (text : Text) : Prop :=
  ∀ line ∈ lines text, line.getLast? ≠ some '\r'

instance (text : Text) : Decidable (Unreturned text) :=
  inferInstanceAs (Decidable (∀ line ∈ lines text, line.getLast? ≠ some '\r'))

theorem withReturns_append (first second : Text) :
    withReturns (first ++ second) = withReturns first ++ withReturns second :=
  List.flatMap_append

theorem withReturns_of_not_mem {line : Text} (plain : '\n' ∉ line) : withReturns line = line := by
  induction line with
  | nil => rfl
  | cons c line ih =>
      simp only [List.mem_cons, not_or] at plain
      rw [withReturns, List.flatMap_cons, if_neg (Ne.symm plain.1), ← withReturns, ih plain.2,
        List.singleton_append]

theorem withReturns_line_append {line : Text} (plain : '\n' ∉ line) (rest : Text) :
    withReturns (line ++ '\n' :: rest) = (line ++ ['\r']) ++ '\n' :: withReturns rest := by
  rw [withReturns_append, withReturns_of_not_mem plain, List.append_assoc]
  rfl

theorem newline_not_mem_append_return {line : Text} (plain : '\n' ∉ line) :
    '\n' ∉ line ++ ['\r'] :=
  List.not_mem_append plain (by decide)

theorem dropReturn_append_return (line : Text) : dropReturn (line ++ ['\r']) = line := by
  rw [dropReturn, List.getLast?_concat, if_pos rfl, List.dropLast_concat]

/-- Blanks at the end of a line are trimmed with or without a carriage return behind them. -/
theorem trim_append_return (line : Text) : trim (line ++ ['\r']) = trim line := by
  have blank : isBlank '\r' = true := by decide
  have trimmed (text : Text) : trimEnd (text ++ ['\r']) = trimEnd text := by
    rw [trimEnd, List.reverse_concat, List.dropWhile_cons_of_pos blank, trimEnd]
  rw [trim, trim, trimStart, List.dropWhile_append, ← trimStart]
  split
  · rename_i empty
    rw [List.isEmpty_iff] at empty
    rw [empty]
    rfl
  · exact trimmed _

@[simp] theorem trim_dropReturn (line : Text) : trim (dropReturn line) = trim line := by
  by_cases ended : line.getLast? = some '\r'
  · obtain ⟨body, rfl⟩ := List.getLast?_eq_some_iff.1 ended
    rw [dropReturn_append_return, trim_append_return]
  · rw [dropReturn_of_getLast?_ne ended]

theorem all_isBlank_withReturns (text : Text) :
    (withReturns text).all isBlank = text.all isBlank := by
  rw [withReturns, List.all_flatMap]
  refine congrArg text.all (funext fun c => ?_)
  split
  · rename_i feed
    subst feed
    decide
  · simp

end PatchSurvey.Text
