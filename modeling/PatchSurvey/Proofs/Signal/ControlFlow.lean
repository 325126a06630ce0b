import PatchSurvey.Proofs.Pattern.Covers
import PatchSurvey.Signal.ControlFlow

/-! # The tokens of control flow

The first tokens of a line tell whether it steers control. A condition is a keyword and
an opening bracket, so a line is control flow as soon as its tokens begin with one. -/

namespace PatchSurvey

open Pattern Text

/-- Words that stand before a condition. -/
def conditionWords : List String :=
  ["for", "foreach", "while", "if", "elif", "else", "switch", "catch", "with", "until", "unless"]

/-- Words that begin a statement. -/
def statementWords : List String :=
  ["return", "throw", "new", "await", "yield"]

/-- The tokens begin a condition. -/
inductive OpensCondition : List Text → Prop where
  | word {word : String} (mem : word ∈ conditionWords) (rest : List Text) :
      OpensCondition (word.toList :: ['('] :: rest)
  | elseIf (rest : List Text) : OpensCondition ("else".toList :: "if".toList :: ['('] :: rest)

/-- The tokens of a line that steers control or passes a value on. -/
inductive Steers : List Text → Prop where
  | condition {tokens : List Text} (opens : OpensCondition tokens) : Steers tokens
  | behindBrace {tokens : List Text} (opens : OpensCondition tokens) : Steers (['\x7d'] :: tokens)
  | statement {word : String} (mem : word ∈ statementWords) (rest : List Text) :
      Steers (word.toList :: rest)
  | deletion {token : Text} (operand : token.head?.any (fun c => isWord c || c == '$') = true)
      (rest : List Text) : Steers ("delete".toList :: token :: rest)

theorem isWordRow_of_mem_conditionWords : ∀ word ∈ conditionWords, IsWordRow word.toList := by
  decide

theorem isWordRow_of_mem_statementWords : ∀ word ∈ statementWords, IsWordRow word.toList := by
  decide

/-! ## The first token -/

/-- Words that begin a line of control flow. -/
def reservedWords : List String :=
  conditionWords ++ statementWords

/-- The tokens that a line of control flow can begin with. -/
def steeringStarts : List Text :=
  ['\x7d'] :: "delete".toList :: reservedWords.map String.toList

theorem mem_map_reservedWords_of_mem_conditionWords {word : String} (mem : word ∈ conditionWords) :
    word.toList ∈ reservedWords.map String.toList :=
  List.mem_map_of_mem (List.mem_append_left _ mem)

theorem mem_map_reservedWords_of_mem_statementWords {word : String} (mem : word ∈ statementWords) :
    word.toList ∈ reservedWords.map String.toList :=
  List.mem_map_of_mem (List.mem_append_right _ mem)

theorem Steers.mem_starts {first : Text} {rest : List Text} (steers : Steers (first :: rest)) :
    first ∈ steeringStarts := by
  have reserved {token : Text} (mem : token ∈ reservedWords.map String.toList) :
      token ∈ steeringStarts :=
    List.mem_cons_of_mem _ (List.mem_cons_of_mem _ mem)
  cases steers with
  | condition opens =>
      cases opens with
      | word mem => exact reserved (mem_map_reservedWords_of_mem_conditionWords mem)
      | elseIf =>
          have condition : "else" ∈ conditionWords := by decide
          exact reserved (mem_map_reservedWords_of_mem_conditionWords condition)
  | behindBrace => exact List.mem_cons_self ..
  | statement mem => exact reserved (mem_map_reservedWords_of_mem_statementWords mem)
  | deletion => exact List.mem_cons_of_mem _ (List.mem_cons_self ..)

/-- Before a bracket only a reserved word steers control. -/
theorem Steers.mem_reservedWords {name : Text} {rest : List Text}
    (steers : Steers (name :: ['('] :: rest)) (row : IsWordRow name) :
    name ∈ reservedWords.map String.toList := by
  generalize whole : name :: ['('] :: rest = all at steers
  cases steers with
  | condition opens =>
      cases opens with
      | word mem =>
          rw [(List.cons.inj whole).1]
          exact mem_map_reservedWords_of_mem_conditionWords mem
      | elseIf => exact absurd (List.cons.inj (List.cons.inj whole).2).1 (by decide)
  | behindBrace =>
      rw [(List.cons.inj whole).1] at row
      exact absurd row (by decide)
  | statement mem =>
      rw [(List.cons.inj whole).1]
      exact mem_map_reservedWords_of_mem_statementWords mem
  | deletion operand =>
      rw [← (List.cons.inj (List.cons.inj whole).2).1] at operand
      exact absurd operand (by decide)

/-! ## From patterns to tokens -/

/-- What stands before a condition. -/
def conditionHeads : List Pattern :=
  [exactly "for", exactly "foreach", exactly "while", exactly "if",
    row [exactly "else", gap, exactly "if"], exactly "elif", exactly "else", exactly "switch",
    exactly "catch", exactly "with", exactly "until", exactly "unless"]

theorem eq_of_mem_conditionHeads {head : Pattern} (mem : head ∈ conditionHeads) :
    head = row [exactly "else", gap, exactly "if"] ∨ ∃ word ∈ conditionWords, head = exactly word := by
  have cases : ∀ head ∈ conditionHeads, head = row [exactly "else", gap, exactly "if"] ∨
      ∃ word ∈ conditionWords, head = exactly word := by
    simp [conditionHeads, conditionWords]
  exact cases head mem

variable {a b : Place} {line : Text}

/-- A head with a bracket behind it begins a condition. -/
theorem opensCondition_of_spans (spans : Spans (row [oneOf conditionHeads, blanks, exactly "("]) a b) :
    OpensCondition (tokens a.rest) := by
  simp only [spans_row_cons, spans_row_nil, spans_oneOf_iff, spans_exactly_iff] at spans
  obtain ⟨m, ⟨head, mem, spans⟩, n, before, k, bracket, rfl⟩ := spans
  have opening : tokens m.rest = ['('] :: tokens b.rest := by
    rw [keeps_tokens_blanks before]
    exact tokens_of_reads_sign (by decide) (by decide) bracket
  have stop : m.beforeWord = false := not_isWord_head_of_tokens opening (by decide)
  obtain rfl | ⟨word, among, rfl⟩ := eq_of_mem_conditionHeads mem
  · simp only [spans_row_cons, spans_row_nil, spans_exactly_iff] at spans
    obtain ⟨p, first, q, between, r, second, rfl⟩ := spans
    obtain ⟨same, ends⟩ := tokens_of_spans_gap between
    rw [tokens_of_reads_word (by decide) first ends, same,
      tokens_of_reads_word (by decide) second stop, opening]
    exact .elseIf _
  · have reads := spans_exactly_iff.1 spans
    rw [tokens_of_reads_word (isWordRow_of_mem_conditionWords word among) reads stop, opening]
    exact .word among _

/-- A control-flow line has the tokens of one. -/
theorem steers_of_isControlFlow (found : isControlFlow line = true) : Steers (tokens line) := by
  obtain ⟨shape, mem, found⟩ := List.any_eq_true.1 found
  simp only [controlFlowTable, List.mem_cons, List.not_mem_nil, or_false] at mem
  have start {rest : List Pattern} (found : (row (indent :: rest)).search line = true) :
      ∃ m b, tokens line = tokens m.rest ∧ Spans (row rest) m b := by
    obtain ⟨b, spans⟩ := (anchored_indent.row_cons rest).exists_of_search found
    obtain ⟨m, indented, spans⟩ := spans_row_cons.1 spans
    exact ⟨m, b, keeps_tokens_indent indented, spans⟩
  rcases mem with rfl | rfl | rfl
  · obtain ⟨m, b, same, spans⟩ := start found
    obtain ⟨n, brace, spans⟩ := spans_row_cons.1 spans
    have opens := opensCondition_of_spans spans
    rw [same]
    rcases brace with brace | rfl
    · simp only [spans_row_cons, spans_row_nil, spans_exactly_iff] at brace
      obtain ⟨k, closing, p, before, rfl⟩ := brace
      rw [tokens_of_reads_sign (by decide) (by decide) closing, keeps_tokens_blanks before]
      exact .behindBrace opens
    · exact .condition opens
  · obtain ⟨m, b, same, spans⟩ := start found
    simp only [spans_row_cons, spans_row_nil, spans_words_iff] at spans
    obtain ⟨n, ⟨word, mem, reads⟩, k, edge, rfl⟩ := spans
    have row := isWordRow_of_mem_statementWords word mem
    rw [same, (tokens_of_reads_word_edge row reads edge).2]
    exact .statement mem _
  · obtain ⟨m, b, same, spans⟩ := start found
    simp only [spans_row_cons, spans_row_nil, spans_exactly_iff] at spans
    obtain ⟨n, reads, k, between, p, ⟨c, rest, ahead, accepted, -⟩, -⟩ := spans
    obtain ⟨passed, ends⟩ := tokens_of_spans_gap between
    have operand : ∃ token more, tokens k.rest = token :: more ∧
        token.head?.any (fun c => isWord c || c == '$') = true := by
      have either : isWord c = true ∨ c = '$' := by simpa using accepted
      rw [ahead]
      rcases either with word | rfl
      · obtain ⟨tail, more, begun⟩ := exists_tokens_cons_of_isWord word rest
        exact ⟨_, more, begun, by simp [word]⟩
      · exact ⟨_, _, tokens_sign_cons (by decide) (by decide) rest, by decide⟩
    obtain ⟨token, more, begun, operand⟩ := operand
    rw [same, tokens_of_reads_word (by decide) reads ends, passed, begun]
    exact .deletion operand more

/-! ## From tokens to patterns -/

/-- Tokens that begin a condition are those of a text that the shape of conditions covers. -/
theorem OpensCondition.exists_covers {all : List Text} (opens : OpensCondition all) {text : Text}
    (same : tokens text = all) :
    ∃ indent stretch behind, (∀ c ∈ indent, isBlank c = true) ∧
      text = indent ++ (stretch ++ behind) ∧
      Covers (row [oneOf conditionHeads, blanks, exactly "("]) stretch := by
  have bracket {text : Text} {rest : List Text} (first : tokens text = ['('] :: rest) :
      ∃ stretch behind, text = stretch ++ behind ∧ Covers (row [blanks, exactly "("]) stretch := by
    obtain ⟨before, behind, blank, rfl, -, -⟩ := exists_append_of_tokens first
    exact ⟨before ++ ['('], behind, by simp,
      (covers_many_one blank).row_cons (covers_exactly "(").row_singleton⟩
  have head {pattern : Pattern} {stretch : Text} (mem : pattern ∈ conditionHeads)
      (covers : Covers pattern stretch) : Covers (oneOf conditionHeads) stretch :=
    fun _ _ reads => spans_oneOf_iff.2 ⟨pattern, mem, covers reads⟩
  cases opens with
  | @word word mem rest =>
      obtain ⟨indent, behind, blank, rfl, more, -⟩ := exists_append_of_tokens same
      obtain ⟨stretch, behind, rfl, covers⟩ := bracket more
      have among : ∀ word ∈ conditionWords, exactly word ∈ conditionHeads := by
        simp [conditionWords, conditionHeads]
      exact ⟨indent, word.toList ++ stretch, behind, blank, by simp,
        (head (among word mem) (covers_exactly word)).row_cons covers⟩
  | elseIf rest =>
      obtain ⟨indent, behind, blank, rfl, second, stop⟩ := exists_append_of_tokens same
      obtain ⟨between, behind, blankBetween, rfl, third, -⟩ := exists_append_of_tokens second
      obtain ⟨stretch, behind, rfl, covers⟩ := bracket third
      have apart : between ≠ [] := by
        rintro rfl
        exact absurd (stop (by decide)) (by simp +decide)
      have elseIf : Covers (row [exactly "else", gap, exactly "if"])
          ("else".toList ++ (between ++ "if".toList)) :=
        (covers_exactly "else").row_cons ((covers_oneOrMore_one apart blankBetween).row_cons
          (covers_exactly "if").row_singleton)
      have mem : row [exactly "else", gap, exactly "if"] ∈ conditionHeads := by
        simp [conditionHeads]
      exact ⟨indent, "else".toList ++ (between ++ "if".toList) ++ stretch, behind, blank, by simp,
        (head mem elseIf).row_cons covers⟩

/-- A line whose tokens begin a condition is control flow. -/
theorem isControlFlow_of_opensCondition (opens : OpensCondition (tokens line)) :
    isControlFlow line = true := by
  obtain ⟨indent, stretch, behind, blank, rfl, covers⟩ := opens.exists_covers rfl
  refine List.any_eq_true.2 ⟨_, List.mem_cons_self .., ?_⟩
  exact (Covers.row_skip covers_optional_nil covers).search_indent
    ⟨indent, List.all_eq_true.2 blank⟩ behind

end PatchSurvey
