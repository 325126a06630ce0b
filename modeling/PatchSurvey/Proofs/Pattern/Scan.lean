import PatchSurvey.Proofs.Pattern.Stretch

/-! # Scans along a pattern

A scan reads a text character by character and remembers a state. Which states it can be
in behind a stretch of a pattern follows from the pieces of the pattern. -/

namespace PatchSurvey.Pattern

open Place

variable {σ : Type} {step : σ → Char → σ} {before within behind : List σ}

/-- Along a stretch of the pattern the scan goes from one of the first states to one of the
second. -/
def Moves (step : σ → Char → σ) (before behind : List σ) (pattern : Pattern) : Prop :=
  ∀ ⦃a b : Place⦄, Spans pattern a b →
    ∃ stretch, Reads stretch a b ∧ ∀ state ∈ before, stretch.foldl step state ∈ behind

variable {first second body : Pattern} {rest : List Pattern}

theorem Moves.mono {less more : List σ} (moves : Moves step before behind first)
    (fewer : less ⊆ before) (further : behind ⊆ more) : Moves step less more first := by
  intro a b spans
  obtain ⟨stretch, reads, move⟩ := moves spans
  exact ⟨stretch, reads, fun state mem => further (move state (fewer mem))⟩

theorem moves_textStart : Moves step before before textStart := by
  rintro a _ ⟨-, rfl⟩
  exact ⟨[], reads_nil_iff.2 rfl, fun _ mem => mem⟩

theorem Moves.row_cons (head : Moves step before within first)
    (tail : Moves step within behind (row rest)) : Moves step before behind (row (first :: rest)) := by
  intro a b spans
  obtain ⟨m, spansHead, spansTail⟩ := spans_row_cons.1 spans
  obtain ⟨front, readsFront, moveFront⟩ := head spansHead
  obtain ⟨back, readsBack, moveBack⟩ := tail spansTail
  refine ⟨front ++ back, reads_append_iff.2 ⟨m, readsFront, readsBack⟩, fun state mem => ?_⟩
  rw [List.foldl_append]
  exact moveBack _ (moveFront state mem)

theorem Moves.row_singleton (moves : Moves step before behind first) :
    Moves step before behind (row [first]) :=
  moves

/-- A piece that may be left out leads where the scan may stay. -/
theorem Moves.optional (moves : Moves step before behind body) (among : before ⊆ behind) :
    Moves step before behind (optional body) := by
  rintro a b (once | rfl)
  · exact moves once
  · exact ⟨[], reads_nil_iff.2 rfl, fun _ mem => among mem⟩

theorem Moves.many (moves : Moves step before before body) : Moves step before before (many body) := by
  intro a b spans
  rw [Spans] at spans
  induction spans with
  | stop => exact ⟨[], reads_nil_iff.2 rfl, fun _ mem => mem⟩
  | more head _ ih =>
      obtain ⟨front, readsFront, moveFront⟩ := moves head
      obtain ⟨back, readsBack, moveBack⟩ := ih
      refine ⟨front ++ back, reads_append_iff.2 ⟨_, readsFront, readsBack⟩, fun state mem => ?_⟩
      rw [List.foldl_append]
      exact moveBack _ (moveFront state mem)

theorem Moves.oneOrMore (once : Moves step before behind body) (again : Moves step behind behind body) :
    Moves step before behind (oneOrMore body) :=
  once.row_cons again.many.row_singleton

theorem moves_one {accepts : Char → Bool}
    (moves : ∀ state ∈ before, ∀ c, accepts c = true → step state c ∈ behind) :
    Moves step before behind (one accepts) := by
  intro a b spans
  obtain ⟨c, accepted, reads⟩ := spans_one_iff.1 spans
  exact ⟨[c], reads, fun state mem => moves state mem c accepted⟩

theorem moves_exactly {word : String}
    (moves : ∀ state ∈ before, word.toList.foldl step state ∈ behind) :
    Moves step before behind (exactly word) :=
  fun _ _ spans => ⟨word.toList, spans_exactly_iff.1 spans, moves⟩

theorem moves_words {list : List String}
    (moves : ∀ word ∈ list, ∀ state ∈ before, word.toList.foldl step state ∈ behind) :
    Moves step before behind (words list) := by
  intro a b spans
  obtain ⟨word, mem, reads⟩ := spans_words_iff.1 spans
  exact ⟨word.toList, reads, moves word mem⟩

end PatchSurvey.Pattern
