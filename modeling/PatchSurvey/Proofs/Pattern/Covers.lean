import PatchSurvey.Proofs.Pattern.Tokens
import PatchSurvey.Proofs.Text.Parts

/-! # Texts that a pattern covers

A pattern covers a text if it spans it wherever it stands. A row covers what its
pieces cover behind each other, and is then found at the start of a line. -/

namespace PatchSurvey.Pattern

open Place Text

/-- The pattern spans the text wherever it stands. -/
def Covers (pattern : Pattern) (stretch : Text) : Prop :=
  ∀ ⦃a b : Place⦄, Reads stretch a b → Spans pattern a b

variable {first : Pattern} {rest : List Pattern} {s t : Text}

/-! ## Rows -/

theorem Covers.row_cons (head : Covers first s) (tail : Covers (row rest) t) :
    Covers (row (first :: rest)) (s ++ t) := by
  intro a b reads
  obtain ⟨m, before, behind⟩ := reads_append_iff.1 reads
  exact spans_row_cons.2 ⟨m, head before, tail behind⟩

theorem Covers.row_singleton (covers : Covers first s) : Covers (row [first]) s :=
  covers

theorem Covers.row_append {front back : List Pattern} (head : Covers (row front) s)
    (tail : Covers (row back) t) : Covers (row (front ++ back)) (s ++ t) := by
  intro a b reads
  obtain ⟨m, before, behind⟩ := reads_append_iff.1 reads
  exact spans_row_append.2 ⟨m, head before, tail behind⟩

/-- A piece that may be empty is passed over. -/
theorem Covers.row_skip (empty : Covers first []) (tail : Covers (row rest) t) :
    Covers (row (first :: rest)) t :=
  empty.row_cons tail

/-! ## Pieces -/

theorem covers_nothing : Covers nothing [] :=
  fun _ _ reads => reads_nil_iff.1 reads

theorem Covers.either_left {second : Pattern} (covers : Covers first s) :
    Covers (either first second) s :=
  fun _ _ reads => .inl (covers reads)

theorem Covers.either_right {second : Pattern} (covers : Covers second s) :
    Covers (either first second) s :=
  fun _ _ reads => .inr (covers reads)

theorem Covers.optional (covers : Covers first s) : Covers (optional first) s :=
  covers.either_left

theorem covers_optional_nil : Covers (Pattern.optional first) [] :=
  covers_nothing.either_right

theorem covers_many_nil : Covers (many first) [] := by
  intro a b reads
  obtain rfl := reads_nil_iff.1 reads
  exact .stop b

theorem covers_exactly (word : String) : Covers (exactly word) word.toList :=
  fun _ _ reads => spans_exactly_iff.2 reads

theorem covers_many_one {accepts : Char → Bool} (accepted : ∀ c ∈ s, accepts c = true) :
    Covers (many (one accepts)) s :=
  fun _ _ reads => spans_many_one_iff.2 ⟨s, accepted, reads⟩

theorem covers_oneOrMore_one {accepts : Char → Bool} (some : s ≠ [])
    (accepted : ∀ c ∈ s, accepts c = true) : Covers (oneOrMore (one accepts)) s :=
  fun _ _ reads => spans_oneOrMore_one_iff.2 ⟨s, some, accepted, reads⟩

theorem covers_blanks (blanks : Blanks) : Covers Pattern.blanks blanks.text :=
  covers_many_one blanks.isBlank_of_mem

theorem covers_blanks_nil : Covers blanks [] :=
  covers_many_nil

theorem covers_gap (gap : Gap) : Covers Pattern.gap gap.text :=
  covers_oneOrMore_one gap.some gap.isBlank_of_mem

theorem covers_name (word : Word) : Covers name word.text :=
  covers_oneOrMore_one word.row.1 word.row.2

theorem covers_keyword (word : String) (gap : Gap) :
    Covers (keyword word) (word.toList ++ gap.text) :=
  (covers_exactly word).row_cons (covers_gap gap).row_singleton

theorem covers_enclosed {left stops right : String} (free : ∀ c ∈ s, c ∉ stops.toList) :
    Covers (enclosed left stops right) (left.toList ++ (s ++ right.toList)) := by
  have inner : Covers (many (except stops)) s := by
    refine covers_many_one fun c mem => ?_
    rw [Bool.not_eq_true', ← Bool.not_eq_true, List.contains_iff_mem]
    exact free c mem
  exact (covers_exactly left).row_cons (inner.row_cons (covers_exactly right).row_singleton)

/-- A word ends before a blank. -/
theorem Covers.row_word_edge {word : String} {last : Char} (ends : word.toList.getLast? = some last)
    (isWord : Text.isWord last = true) (stop : t.head?.any Text.isWord = false) (some : t ≠ [])
    (tail : Covers (row rest) t) :
    Covers (row (exactly word :: wordEdge :: rest)) (word.toList ++ t) := by
  intro a b reads
  obtain ⟨m, before, behind⟩ := reads_append_iff.1 reads
  have after : m.afterWord = true := by
    rw [afterWord, before.last, ends]
    exact isWord
  have next : m.beforeWord = false := by
    obtain ⟨c, t, rfl⟩ := List.exists_cons_of_ne_nil some
    rw [beforeWord, behind.ahead]
    exact stop
  have edge : Spans wordEdge m m := ⟨by rw [after, next]; decide, rfl⟩
  exact spans_row_cons.2 ⟨m, spans_exactly_iff.2 before, spans_row_cons.2 ⟨m, edge, tail behind⟩⟩

/-! ## Lines -/

theorem mem_places_start (last : Option Char) (text : Text) : ⟨last, text⟩ ∈ places last text := by
  cases text with
  | nil => exact List.mem_singleton_self _
  | cons c text => exact List.mem_cons_self ..

/-- A row that covers the text behind the indentation is found in the line. -/
theorem Covers.search_indent (covers : Covers (row rest) s) (indent : Blanks) (behind : Text) :
    (row (Pattern.indent :: rest)).search (indent.text ++ (s ++ behind)) = true := by
  have start : Spans Pattern.indent ⟨none, indent.text ++ (s ++ behind)⟩
      ⟨indent.text.getLast?.or none, s ++ behind⟩ :=
    spans_row_cons.2 ⟨_, ⟨rfl, rfl⟩, covers_blanks indent ⟨rfl, rfl⟩⟩
  have found : Spans (row rest) ⟨indent.text.getLast?.or none, s ++ behind⟩
      ⟨s.getLast?.or (indent.text.getLast?.or none), behind⟩ :=
    covers ⟨rfl, rfl⟩
  exact search_iff.2 ⟨_, mem_places_start none _, _, spans_row_cons.2 ⟨_, start, found⟩⟩

end PatchSurvey.Pattern
