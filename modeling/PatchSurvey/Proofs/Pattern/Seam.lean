import PatchSurvey.Proofs.Pattern.Extension

/-! # Signs that keep a pattern from growing

Some patterns read a sign only as their last character. In a text that holds the sign, they
end before anything that is added to the text. -/

namespace PatchSurvey.Pattern

open Place Text

/-! ## Signs that end a stretch -/

/-- Every stretch has the sign only at its end, or nowhere. -/
def closesWith (x : Char) : Pattern → Bool
  | one _ => true
  | both first second =>
      first.avoids x && second.closesWith x || first.closesWith x && second.still
  | either first second => first.closesWith x && second.closesWith x
  | many body => body.avoids x
  | nothing | textStart | textEnd | wordEdge | unlessNext _ => true

theorem Spans.exists_reads_of_closesWith {pattern : Pattern} {a b : Place}
    (spans : Spans pattern a b) {x : Char} (closes : pattern.closesWith x = true) :
    ∃ stretch, x ∉ stretch.dropLast ∧ Reads stretch a b := by
  induction pattern generalizing a b with
  | one accepts =>
      obtain ⟨c, -, reads⟩ := spans_one_iff.1 spans
      exact ⟨[c], List.not_mem_nil, reads⟩
  | both first second ihFirst ihSecond =>
      obtain ⟨m, left, right⟩ := spans
      rcases Bool.or_eq_true_iff.1 closes with closes | closes
      · obtain ⟨avoids, closes⟩ := Bool.and_eq_true_iff.1 closes
        obtain ⟨before, free, readsBefore⟩ := left.exists_reads_of_avoids avoids
        obtain ⟨after, last, readsAfter⟩ := ihSecond right closes
        refine ⟨before ++ after, fun mem => ?_, reads_append_iff.2 ⟨m, readsBefore, readsAfter⟩⟩
        cases after with
        | nil =>
            rw [List.append_nil] at mem
            exact free ((List.dropLast_prefix _).subset mem)
        | cons c after =>
            rw [List.dropLast_append_of_ne_nil (List.cons_ne_nil c after), List.mem_append] at mem
            exact mem.elim free last
      · obtain ⟨closes, still⟩ := Bool.and_eq_true_iff.1 closes
        rw [right.eq_of_still still]
        exact ihFirst left closes
  | either first second ihFirst ihSecond =>
      obtain ⟨closesFirst, closesSecond⟩ := Bool.and_eq_true_iff.1 closes
      exact spans.elim (ihFirst · closesFirst) (ihSecond · closesSecond)
  | many body =>
      have avoids : (many body).avoids x = true := closes
      obtain ⟨stretch, free, reads⟩ := spans.exists_reads_of_avoids avoids
      exact ⟨stretch, fun mem => free ((List.dropLast_prefix _).subset mem), reads⟩
  | nothing => exact ⟨[], List.not_mem_nil, reads_nil_iff.2 spans⟩
  | textStart | textEnd | wordEdge | unlessNext =>
      exact ⟨[], List.not_mem_nil, reads_nil_iff.2 spans.2⟩

/-- Behind the sign the pattern does not go on. -/
theorem Spans.exists_append_of_mem {pattern : Pattern} {a b : Place} {more : Text}
    (spans : Spans pattern (a.append more) b) {x : Char} (closes : pattern.closesWith x = true)
    (mem : x ∈ a.rest) : ∃ m : Place, b = m.append more := by
  obtain ⟨stretch, last, reads⟩ := spans.exists_reads_of_closesWith closes
  rcases List.append_eq_append_iff.1 reads.ahead with
    ⟨across, rfl, tail⟩ | ⟨rest, -, tail⟩
  · cases across with
    | nil => exact ⟨⟨b.last, []⟩, Place.ext rfl tail.symm⟩
    | cons c across =>
        rw [List.dropLast_append_of_ne_nil (List.cons_ne_nil c across), List.mem_append] at last
        exact absurd (.inl mem) last
  · exact ⟨⟨b.last, rest⟩, Place.ext rfl tail⟩

/-- A pattern at the start is found in a text with the sign, or in no longer one. -/
theorem search_of_append {pattern : Pattern} (anchored : Anchored pattern)
    (settled : pattern.settled = true) {x : Char} (closes : pattern.closesWith x = true)
    {text more : Text} (mem : x ∈ text) (stop : more.head?.any isWord = false)
    (found : pattern.search (text ++ more) = true) : pattern.search text = true := by
  obtain ⟨b, spans⟩ := anchored.exists_of_search found
  obtain ⟨m, rfl⟩ := Spans.exists_append_of_mem (a := ⟨none, text⟩) spans closes mem
  exact search_iff.2 ⟨_, mem_places_start none text, m,
    Spans.of_append (a := ⟨none, text⟩) stop spans settled⟩

/-! ## Signs that must be there -/

/-- Where the pattern spans, the sign is ahead. -/
def Demands (x : Char) (pattern : Pattern) : Prop :=
  ∀ ⦃a b : Place⦄, Spans pattern a b → x ∈ a.rest

theorem demands_exactly {x : Char} {word : String} (mem : x ∈ word.toList) :
    Demands x (exactly word) := by
  intro a b spans
  rw [(spans_exactly_iff.1 spans).ahead]
  exact List.mem_append_left _ mem

theorem Demands.row_of_mem {x : Char} {piece : Pattern} (demands : Demands x piece)
    {pieces : List Pattern} (mem : piece ∈ pieces) : Demands x (row pieces) := by
  intro a b spans
  obtain ⟨front, back, rfl⟩ := List.append_of_mem mem
  obtain ⟨m, before, spans⟩ := spans_row_append.1 spans
  obtain ⟨n, here, -⟩ := spans_row_cons.1 spans
  obtain ⟨stretch, whole, -⟩ := before.exists_stretch
  rw [whole]
  exact List.mem_append_right _ (demands here)

theorem Demands.mem_of_search {x : Char} {pattern : Pattern} (demands : Demands x pattern)
    {text : Text} (found : pattern.search text = true) : x ∈ text := by
  obtain ⟨a, here, b, spans⟩ := search_iff.1 found
  exact (rest_isSuffix_of_mem_places here).subset (demands spans)

end PatchSurvey.Pattern
