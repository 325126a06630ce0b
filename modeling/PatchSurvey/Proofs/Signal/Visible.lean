import PatchSurvey.Proofs.Pattern.Visible
import PatchSurvey.Signal.Check

/-! # No signal without a visible character

Every shape in the tables asks for a visible character, so a blank line carries no
signal in any language. -/

namespace PatchSurvey

theorem Language.mem_all (language : Language) : language ∈ all := by
  cases language <;> decide

namespace Check

theorem mem_all (check : Check) : check ∈ all := by
  cases check <;> decide

/-- The shapes that a check looks for. -/
def shapes (check : Check) (language : Language) : List Pattern :=
  match check with
  | functions => language.headers.map Prod.snd
  | imports => language.importShapes
  | tests => language.testShapes

/-- A line carries a signal if it has a shape that is looked for. A header is no control flow. -/
theorem accepts_iff {check : Check} {language : Language} {line : Text} :
    check.accepts language line = true ↔
      (check = functions → isControlFlow line = false) ∧
        ∃ shape ∈ check.shapes language, shape.search line = true := by
  cases check with
  | functions =>
      rw [accepts, Language.headerForm?]
      cases isControlFlow line with
      | true => simp
      | false =>
          have found : ((language.headers.find? (·.2.search line)).map (·.1)).isSome = true ↔
              ∃ header ∈ language.headers, header.2.search line = true := by
            rw [Option.isSome_map, List.find?_isSome]
          rw [if_neg Bool.false_ne_true, found, and_iff_right fun _ => rfl]
          constructor
          · rintro ⟨header, mem, found⟩
            exact ⟨header.2, List.mem_map_of_mem mem, found⟩
          · rintro ⟨_, mem, found⟩
            obtain ⟨header, among, rfl⟩ := List.mem_map.1 mem
            exact ⟨header, among, found⟩
  | imports | tests =>
      exact List.any_eq_true.trans (iff_and_self.2 fun _ other => nomatch other)

theorem shapes_demandVisible : ∀ check ∈ all, ∀ language ∈ Language.all,
    ∀ shape ∈ check.shapes language, shape.demandsVisible = true := by
  decide +kernel

/-- A line that carries a signal is more than blanks. -/
theorem hasVisible_of_accepts {check : Check} {language : Language} {line : Text}
    (accepted : check.accepts language line = true) : line.HasVisible := by
  obtain ⟨-, shape, mem, found⟩ := accepts_iff.1 accepted
  have demands := shapes_demandVisible check check.mem_all language language.mem_all shape mem
  exact Pattern.hasVisible_of_search demands found

end Check

end PatchSurvey
