import PatchSurvey.Pattern.Search
import PatchSurvey.Proofs.Pattern.Stretch

/-! # Patterns that cover what others cover

A pattern lies within another if all its stretches are stretches of the other. A
row of patterns is compared piece by piece: pieces stand for each other, the wider
row may have pieces that can be empty, and repetitions take up several pieces. -/

namespace PatchSurvey.Pattern

/-- Every stretch of the inner pattern is one of the outer pattern. -/
def Within (inner outer : Pattern) : Prop :=
  ∀ ⦃a b : Place⦄, Spans inner a b → Spans outer a b

/-- A wider pattern is found in every text in which the narrower one is. -/
theorem Within.search {inner outer : Pattern} (within : Within inner outer) {text : Text}
    (found : inner.search text = true) : outer.search text = true := by
  obtain ⟨a, here, b, spans⟩ := search_iff.1 found
  exact search_iff.2 ⟨a, here, b, within spans⟩

namespace Within

variable {inner outer : Pattern} {pieces others : List Pattern}

theorem refl (pattern : Pattern) : Within pattern pattern :=
  fun _ _ spans => spans

theorem nothing_optional (pattern : Pattern) : Within nothing (Pattern.optional pattern) :=
  fun _ _ spans => .inr spans

theorem nothing_many (body : Pattern) : Within nothing (many body) := by
  intro a b spans
  obtain rfl : b = a := spans
  exact .stop b

/-- One of several words may stand where the one word stands. -/
theorem keyword {word : String} {list : List String} (mem : word ∈ list) :
    Within (Pattern.keyword word) (oneKeyword list) := by
  intro a b spans
  obtain ⟨m, read, gap⟩ := spans_row_cons.1 spans
  exact spans_row_cons.2 ⟨m, spans_words_iff.2 ⟨word, mem, spans_exactly_iff.1 read⟩, gap⟩

theorem optional_many (within : Within inner outer) :
    Within (Pattern.optional inner) (many outer) := by
  rintro a b (once | rfl)
  · exact .more (within once) (.stop b)
  · exact .stop _

/-! ## Rows -/

theorem row_cons (first : Within inner outer) (rest : Within (row pieces) (row others)) :
    Within (row (inner :: pieces)) (row (outer :: others)) := by
  intro a b spans
  obtain ⟨m, head, tail⟩ := spans_row_cons.1 spans
  exact spans_row_cons.2 ⟨m, first head, rest tail⟩

/-- Rows that begin alike. -/
theorem row_append (front : List Pattern) (rest : Within (row pieces) (row others)) :
    Within (row (front ++ pieces)) (row (front ++ others)) := by
  induction front with
  | nil => exact rest
  | cons first front ih => exact row_cons (refl first) ih

/-- A piece that may be empty can be left out. -/
theorem row_skip (empty : Within nothing outer) (rest : Within (row pieces) (row others)) :
    Within (row pieces) (row (outer :: others)) := by
  intro a b spans
  exact spans_row_cons.2 ⟨a, empty rfl, rest spans⟩

/-- A repetition takes up one more piece. -/
theorem row_many (first : Within inner (many outer))
    (rest : Within (row pieces) (row (many outer :: others))) :
    Within (row (inner :: pieces)) (row (many outer :: others)) := by
  intro a b spans
  obtain ⟨m, head, tail⟩ := spans_row_cons.1 spans
  obtain ⟨k, later, tail⟩ := spans_row_cons.1 (rest tail)
  exact spans_row_cons.2 ⟨k, (first head).trans later, tail⟩

end Within

/-- Within a row, a row need not be set apart. -/
theorem search_row_row (front inner rest : List Pattern) (text : Text) :
    (row (front ++ row inner :: rest)).search text =
      (row (front ++ (inner ++ rest))).search text := by
  have joined : Within (row (row inner :: rest)) (row (inner ++ rest)) :=
    fun _ _ spans => spans_row_append.2 (spans_row_cons.1 spans)
  have apart : Within (row (inner ++ rest)) (row (row inner :: rest)) :=
    fun _ _ spans => spans_row_cons.2 (spans_row_append.1 spans)
  exact Bool.eq_iff_iff.2 ⟨(Within.row_append front joined).search, (Within.row_append front apart).search⟩

end PatchSurvey.Pattern
