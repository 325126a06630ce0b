import PatchSurvey.Proofs.Pattern.Extension

/-! # What a pattern leaves

A pattern at the start of a line leaves the rest of the line. A row that runs to the end
of the line asks something of the rest that its first pieces leave. -/

namespace PatchSurvey.Pattern

open Place Text

/-- The pattern covers the line up to the rest. -/
def Leaves (pattern : Pattern) (line rest : Text) : Prop :=
  ∃ last, Spans pattern ⟨none, line⟩ ⟨last, rest⟩

variable {pattern : Pattern} {line rest : Text}

theorem Leaves.search (leaves : Leaves pattern line rest) : pattern.search line = true := by
  obtain ⟨last, spans⟩ := leaves
  exact search_iff.2 ⟨_, mem_places_start none line, _, spans⟩

/-- What is added to the line is added to the rest. -/
theorem leaves_append_iff (settled : pattern.settled = true) {more : Text}
    (stop : more.head?.any isWord = false) :
    Leaves pattern (line ++ more) (rest ++ more) ↔ Leaves pattern line rest :=
  exists_congr fun last =>
    ⟨fun spans => spans.of_append (a := ⟨none, line⟩) (b := ⟨last, rest⟩) stop settled,
      fun spans => spans.append stop settled⟩

/-- A pattern that ends before a blank and a sign leaves both of them. -/
theorem StaysBefore.leaves_append_iff {sign : Char} (stays : StaysBefore sign pattern)
    {behind : Text} :
    Leaves pattern (line ++ ' ' :: sign :: behind) rest ↔
      ∃ before, Leaves pattern line before ∧ rest = before ++ ' ' :: sign :: behind := by
  constructor
  · rintro ⟨last, spans⟩
    obtain ⟨-, m, same⟩ := stays.exists_append (a := ⟨none, line⟩) spans
    rw [same] at spans
    refine ⟨m.rest, ⟨m.last, ?_⟩, congrArg Place.rest same⟩
    exact spans.of_append rfl stays.settled
  · rintro ⟨before, leaves, rfl⟩
    exact (Pattern.leaves_append_iff stays.settled rfl).2 leaves

/-! ## Rows that run to the end -/

/-- An end of a text that is free of a character stands behind it. -/
theorem suffix_of_not_mem {x : Char} {front behind text : Text} (suffix : text <:+ front ++ x :: behind)
    (free : x ∉ text) : text <:+ behind := by
  rcases List.suffix_or_suffix_of_suffix suffix (List.suffix_append front (x :: behind)) with
    within | beyond
  · rcases List.suffix_cons_iff.1 within with rfl | within
    · exact absurd (List.mem_cons_self ..) free
    · exact within
  · exact absurd (beyond.subset (List.mem_cons_self ..)) free

/-- Behind the rest of the line there is a line feed at most. -/
theorem not_mem_of_spans_textEnd {x : Char} (noFeed : x ≠ '\n') {a b : Place}
    (spans : Spans textEnd a b) : x ∉ a.rest := by
  rcases spans.1 with rest | rest <;> simp [rest, noFeed]

/-- A text that the pieces cover to its end is free of what they do not read. -/
theorem not_mem_of_spans_toEnd {x : Char} (noFeed : x ≠ '\n') {pieces : List Pattern}
    (avoids : (row pieces).avoids x = true) {a b : Place}
    (spans : Spans (row (pieces ++ [textEnd])) a b) : x ∉ a.rest := by
  obtain ⟨m, covered, ends⟩ := spans_row_append.1 spans
  obtain ⟨stretch, free, reads⟩ := covered.exists_reads_of_avoids avoids
  rw [reads.ahead, List.mem_append, not_or]
  exact ⟨free, not_mem_of_spans_textEnd noFeed ends⟩

theorem not_mem_of_begins_toEnd {x : Char} (noFeed : x ≠ '\n') {pieces : List Pattern}
    (ahead : pieces.any looksBack = false) (avoids : (row pieces).avoids x = true) {text : Text}
    (begun : begins (pieces ++ [textEnd]) text = true) : x ∉ text := by
  have aheadEnd : (pieces ++ [textEnd]).any looksBack = false := by
    rw [List.any_append, ahead]
    rfl
  obtain ⟨b, spans⟩ := (begins_iff aheadEnd (a := ⟨none, text⟩)).1 begun
  exact not_mem_of_spans_toEnd noFeed avoids spans

/-- The rest of the line is free of the stops. -/
theorem search_toEnd_iff {pieces : List Pattern} (anchored : Anchored (row pieces)) {stop : Char}
    {stops : String} (single : stops.toList = [stop]) (noFeed : stop ≠ '\n') :
    (row (pieces ++ [many (except stops), textEnd])).search line = true ↔
      ∃ rest, Leaves (row pieces) line rest ∧ stop ∉ rest := by
  have accepts (c : Char) : (!stops.toList.contains c) = true ↔ c ≠ stop := by
    rw [single, Bool.not_eq_true', ← Bool.not_eq_true, List.contains_iff_mem, List.mem_singleton]
  constructor
  · intro found
    obtain ⟨a, here, b, spans⟩ := search_iff.1 found
    obtain ⟨m, front, spans⟩ := spans_row_append.1 spans
    obtain ⟨n, run, ends⟩ := spans_row_cons.1 spans
    obtain ⟨stretch, free, reads⟩ := spans_many_one_iff.1 run
    obtain rfl := eq_of_mem_places here (anchored front)
    refine ⟨m.rest, ⟨m.last, front⟩, ?_⟩
    rw [reads.ahead, List.mem_append, not_or]
    exact ⟨fun mem => (accepts stop).1 (free stop mem) rfl, not_mem_of_spans_textEnd noFeed ends⟩
  · rintro ⟨rest, ⟨last, front⟩, free⟩
    have run : Spans (many (except stops)) ⟨last, rest⟩ ⟨rest.getLast?.or last, []⟩ :=
      spans_many_one_iff.2 ⟨rest, fun c mem => (accepts c).2 fun same => free (same ▸ mem),
        (List.append_nil rest).symm, rfl⟩
    exact search_iff.2 ⟨_, mem_places_start none line, _, spans_row_append.2
      ⟨_, front, spans_row_cons.2 ⟨_, run, .inl rfl, rfl⟩⟩⟩

/-- Every end of a text is ahead of one of its places. -/
theorem exists_mem_places_append (last : Option Char) (front behind : Text) :
    ∃ place ∈ places last (front ++ behind), place.rest = behind := by
  induction front generalizing last with
  | nil => exact ⟨_, mem_places_start last behind, rfl⟩
  | cons c front ih =>
      obtain ⟨place, here, same⟩ := ih (some c)
      exact ⟨place, mem_places_cons_iff.2 (.inr here), same⟩

/-- A row that does not look back is found where it begins the end of the text. -/
theorem search_iff_begins {pieces : List Pattern} (ahead : pieces.any looksBack = false)
    {text : Text} :
    (row pieces).search text = true ↔ ∃ behind, behind <:+ text ∧ begins pieces behind = true := by
  constructor
  · intro found
    obtain ⟨a, here, b, spans⟩ := search_iff.1 found
    exact ⟨a.rest, rest_isSuffix_of_mem_places here, (begins_iff ahead).2 ⟨b, spans⟩⟩
  · rintro ⟨behind, ⟨front, rfl⟩, begun⟩
    obtain ⟨place, here, rfl⟩ := exists_mem_places_append none front behind
    obtain ⟨b, spans⟩ := (begins_iff ahead).1 begun
    exact search_iff.2 ⟨place, here, b, spans⟩

end PatchSurvey.Pattern
