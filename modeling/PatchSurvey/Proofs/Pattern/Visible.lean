import PatchSurvey.Pattern.Search
import PatchSurvey.Proofs.Text.Visible

/-! # Patterns that ask for a visible character

Whether every stretch of a pattern has a visible character can be read off its
shape. A text in which such a pattern is found is more than blanks. -/

namespace PatchSurvey.Pattern

/-- The shape of the pattern asks for a visible character. -/
def demandsVisible : Pattern → Bool
  | one accepts => Text.blankCharacters.all fun c => !accepts c
  | both first second => first.demandsVisible || second.demandsVisible
  | either first second => first.demandsVisible && second.demandsVisible
  | _ => false

/-- A stretch is a text that leads from one place to the other. -/
theorem Spans.exists_stretch {pattern : Pattern} {a b : Place} (h : Spans pattern a b) :
    ∃ stretch, a.rest = stretch ++ b.rest ∧
      (pattern.demandsVisible = true → stretch.HasVisible) := by
  induction pattern generalizing a b with
  | nothing =>
      obtain rfl : b = a := h
      exact ⟨[], rfl, by simp [demandsVisible]⟩
  | one accepts =>
      obtain ⟨c, rest, ahead, accepted, rfl⟩ := h
      refine ⟨[c], ahead, fun demands => ⟨c, List.mem_singleton_self c, ?_⟩⟩
      by_contra blank
      rw [Text.refuses_of_isBlank demands (Bool.of_not_eq_false blank)] at accepted
      cases accepted
  | both first second ihFirst ihSecond =>
      obtain ⟨m, left, right⟩ := h
      obtain ⟨before, whole, visibleFirst⟩ := ihFirst left
      obtain ⟨after, rest, visibleSecond⟩ := ihSecond right
      refine ⟨before ++ after, by rw [whole, rest, List.append_assoc], fun demands => ?_⟩
      rcases Bool.or_eq_true_iff.1 demands with demands | demands
      · exact (visibleFirst demands).mono (List.subset_append_left ..)
      · exact (visibleSecond demands).mono (List.subset_append_right ..)
  | either first second ihFirst ihSecond =>
      rcases h with left | right
      · obtain ⟨stretch, whole, visible⟩ := ihFirst left
        exact ⟨stretch, whole, fun demands => visible (Bool.and_eq_true_iff.1 demands).1⟩
      · obtain ⟨stretch, whole, visible⟩ := ihSecond right
        exact ⟨stretch, whole, fun demands => visible (Bool.and_eq_true_iff.1 demands).2⟩
  | many body ih =>
      rw [Spans] at h
      refine Exists.imp (fun stretch whole => ⟨whole, by simp [demandsVisible]⟩) ?_
      induction h with
      | stop => exact ⟨[], rfl⟩
      | more head _ ihTail =>
          obtain ⟨before, whole, -⟩ := ih head
          obtain ⟨after, rest⟩ := ihTail
          exact ⟨before ++ after, by rw [whole, rest, List.append_assoc]⟩
  | textStart | textEnd | wordEdge | unlessNext =>
      obtain rfl := h.2
      exact ⟨[], rfl, by simp [demandsVisible]⟩

/-- What is ahead of a place is the end of the text. -/
theorem rest_isSuffix_of_mem_places {last : Option Char} {text : Text} {place : Place}
    (h : place ∈ places last text) : place.rest <:+ text := by
  induction text generalizing last with
  | nil =>
      obtain rfl := List.mem_singleton.1 h
      exact List.suffix_rfl
  | cons c text ih =>
      rcases List.mem_cons.1 h with rfl | h
      · exact List.suffix_rfl
      · exact (ih h).trans (List.suffix_cons c text)

/-- A text in which such a pattern is found has a visible character. -/
theorem hasVisible_of_search {pattern : Pattern} (demands : pattern.demandsVisible = true)
    {text : Text} (found : pattern.search text = true) : text.HasVisible := by
  obtain ⟨a, here, b, spans⟩ := search_iff.1 found
  obtain ⟨stretch, whole, visible⟩ := spans.exists_stretch
  refine (visible demands).mono fun c mem => ?_
  apply (rest_isSuffix_of_mem_places here).subset
  rw [whole]
  exact List.mem_append_left _ mem

end PatchSurvey.Pattern
