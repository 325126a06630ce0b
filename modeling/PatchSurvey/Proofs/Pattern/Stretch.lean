import Mathlib.Data.List.Basic
import PatchSurvey.Signal.Pieces

/-! # The stretches of a pattern

What the pieces of a pattern cover, in terms of the text that is read. A text leads
from one place to the next, and texts behind each other do so too. -/

namespace PatchSurvey

/-- Steps in a row may be followed by others. -/
theorem Chain.trans {α : Type} {step : α → α → Prop} {a b c : α} (first : Chain step a b)
    (second : Chain step b c) : Chain step a c := by
  induction first with
  | stop => exact second
  | more head _ ih => exact .more head (ih second)

/-- The text leads from the first place to the second. -/
structure Place.Reads (stretch : Text) (a b : Place) : Prop where
  ahead : a.rest = stretch ++ b.rest
  last : b.last = stretch.getLast?.or a.last

namespace Place

variable {a b : Place}

theorem reads_nil_iff : Reads [] a b ↔ b = a := by
  constructor
  · rintro ⟨ahead, last⟩
    exact Place.ext last ahead.symm
  · rintro rfl
    exact ⟨rfl, rfl⟩

theorem reads_append_iff {first second : Text} :
    Reads (first ++ second) a b ↔ ∃ m, Reads first a m ∧ Reads second m b := by
  constructor
  · rintro ⟨ahead, last⟩
    refine ⟨⟨first.getLast?.or a.last, second ++ b.rest⟩, ⟨?_, rfl⟩, ⟨rfl, ?_⟩⟩
    · rw [ahead, List.append_assoc]
    · rw [last, List.getLast?_append, Option.or_assoc]
  · rintro ⟨m, ⟨ahead, last⟩, ⟨aheadNext, lastNext⟩⟩
    constructor
    · rw [ahead, aheadNext, List.append_assoc]
    · rw [lastNext, last, List.getLast?_append, Option.or_assoc]

theorem reads_cons_iff {c : Char} {stretch : Text} :
    Reads (c :: stretch) a b ↔ ∃ m, Reads [c] a m ∧ Reads stretch m b :=
  @reads_append_iff a b [c] stretch

end Place

namespace Pattern

open Place

variable {a b : Place}

/-! ## Abbreviations -/

theorem spans_one_iff {accepts : Char → Bool} :
    Spans (one accepts) a b ↔ ∃ c, accepts c = true ∧ Reads [c] a b := by
  constructor
  · rintro ⟨c, rest, ahead, accepted, rfl⟩
    exact ⟨c, accepted, ahead, rfl⟩
  · rintro ⟨c, accepted, ahead, last⟩
    exact ⟨c, b.rest, ahead, accepted, Place.ext last rfl⟩

theorem spans_literal_iff {word : Text} : Spans (literal word) a b ↔ Reads word a b := by
  induction word generalizing a with
  | nil => exact reads_nil_iff.symm
  | cons c word ih =>
      have first (m : Place) : Spans (one (· = c)) a m ↔ Reads [c] a m := by
        simp [spans_one_iff]
      cases word with
      | nil => exact first b
      | cons d word =>
          have step : literal (c :: d :: word) = both (one (· = c)) (literal (d :: word)) := rfl
          rw [step, Spans, reads_cons_iff]
          exact exists_congr fun m => and_congr (first m) ih

@[simp] theorem spans_exactly_iff {word : String} :
    Spans (exactly word) a b ↔ Reads word.toList a b :=
  spans_literal_iff

@[simp] theorem spans_row_nil : Spans (row []) a b ↔ b = a :=
  Iff.rfl

@[simp] theorem spans_row_cons {first : Pattern} {rest : List Pattern} :
    Spans (row (first :: rest)) a b ↔ ∃ m, Spans first a m ∧ Spans (row rest) m b := by
  cases rest with
  | nil => simp [row, Spans]
  | cons next rest => rfl

theorem spans_row_append {front back : List Pattern} :
    Spans (row (front ++ back)) a b ↔ ∃ m, Spans (row front) a m ∧ Spans (row back) m b := by
  induction front generalizing a with
  | nil => simp
  | cons first front ih =>
      rw [List.cons_append, spans_row_cons]
      simp only [spans_row_cons, ih]
      constructor
      · rintro ⟨m, head, k, middle, tail⟩
        exact ⟨k, ⟨m, head, middle⟩, tail⟩
      · rintro ⟨k, ⟨m, head, middle⟩, tail⟩
        exact ⟨m, head, k, middle, tail⟩

theorem spans_oneOf_iff {list : List Pattern} :
    Spans (oneOf list) a b ↔ ∃ pattern ∈ list, Spans pattern a b := by
  induction list with
  | nil =>
      have never : ¬ Spans (oneOf []) a b := fun h => h.1 a rfl
      simp [never]
  | cons first rest ih =>
      cases rest with
      | nil => simp [oneOf]
      | cons next rest =>
          have step : oneOf (first :: next :: rest) = either first (oneOf (next :: rest)) := rfl
          rw [step, Spans, ih, List.exists_mem_cons_iff _ first]

theorem spans_words_iff {list : List String} :
    Spans (words list) a b ↔ ∃ word ∈ list, Reads word.toList a b := by
  simp only [words, spans_oneOf_iff, List.mem_map, exists_exists_and_eq_and, spans_exactly_iff]

/-- Characters of a class in a row. -/
theorem spans_many_one_iff {accepts : Char → Bool} :
    Spans (many (one accepts)) a b ↔
      ∃ stretch, (∀ c ∈ stretch, accepts c = true) ∧ Reads stretch a b := by
  rw [Spans]
  constructor
  · intro chain
    induction chain with
    | stop a => exact ⟨[], by simp, reads_nil_iff.2 rfl⟩
    | more head _ ih =>
        obtain ⟨c, accepted, reads⟩ := spans_one_iff.1 head
        obtain ⟨stretch, others, tail⟩ := ih
        exact ⟨c :: stretch, List.forall_mem_cons.2 ⟨accepted, others⟩,
          reads_cons_iff.2 ⟨_, reads, tail⟩⟩
  · rintro ⟨stretch, accepted, reads⟩
    induction stretch generalizing a with
    | nil =>
        obtain rfl := reads_nil_iff.1 reads
        exact .stop b
    | cons c stretch ih =>
        obtain ⟨first, others⟩ := List.forall_mem_cons.1 accepted
        obtain ⟨m, head, tail⟩ := reads_cons_iff.1 reads
        exact .more (spans_one_iff.2 ⟨c, first, head⟩) (ih others tail)

theorem spans_oneOrMore_one_iff {accepts : Char → Bool} :
    Spans (oneOrMore (one accepts)) a b ↔
      ∃ stretch ≠ [], (∀ c ∈ stretch, accepts c = true) ∧ Reads stretch a b := by
  rw [oneOrMore, Spans]
  constructor
  · rintro ⟨m, head, tail⟩
    obtain ⟨c, accepted, reads⟩ := spans_one_iff.1 head
    obtain ⟨stretch, others, tail⟩ := spans_many_one_iff.1 tail
    exact ⟨c :: stretch, List.cons_ne_nil c stretch, List.forall_mem_cons.2 ⟨accepted, others⟩,
      reads_cons_iff.2 ⟨m, reads, tail⟩⟩
  · rintro ⟨stretch, some, accepted, reads⟩
    obtain ⟨c, stretch, rfl⟩ := List.exists_cons_of_ne_nil some
    obtain ⟨first, others⟩ := List.forall_mem_cons.1 accepted
    obtain ⟨m, head, tail⟩ := reads_cons_iff.1 reads
    exact ⟨m, spans_one_iff.2 ⟨c, first, head⟩, spans_many_one_iff.2 ⟨stretch, others, tail⟩⟩

end Pattern

end PatchSurvey
