import PatchSurvey.Proofs.Pattern.Ends
import PatchSurvey.Proofs.Signal.JavaHeads

/-! # Java headers in two parts

A Java header is a head, which ends where its parameters open, and a rest of the line.
A line has one head at most, so text that is added at the end only changes the rest. -/

namespace PatchSurvey.JavaHead

open Pattern Text

/-- The line has a head with the pieces before the opening bracket, and a rest behind it. -/
def HasHead (pieces : List Pattern) (line rest : Text) : Prop :=
  Leaves (row (pieces ++ [exactly "("])) line rest

theorem HasHead.exists_foldl {pieces : List Pattern} {line rest : Text}
    (head : HasHead pieces line rest) (moves : Moves Scan.step [.apart] [.apart, .joined] (row pieces)) :
    ∃ front, line = front ++ '(' :: rest ∧ front.foldl Scan.step .apart ∈ [Scan.apart, .joined] := by
  obtain ⟨last, spans⟩ := head
  obtain ⟨m, before, bracket⟩ := spans_row_append.1 spans
  obtain ⟨front, reads, move⟩ := moves before
  refine ⟨front, ?_, move _ (List.mem_singleton_self _)⟩
  have opening : m.rest = '(' :: rest := (spans_exactly_iff.1 bracket).ahead
  rw [← opening]
  exact reads.ahead

/-- The heads of a line all end with the same bracket. -/
theorem HasHead.unique {first second : List Pattern} {line rest other : Text}
    (head : HasHead first line rest) (headOther : HasHead second line other)
    (moves : Moves Scan.step [.apart] [.apart, .joined] (row first))
    (movesOther : Moves Scan.step [.apart] [.apart, .joined] (row second)) : rest = other := by
  obtain ⟨front, whole, opens⟩ := head.exists_foldl moves
  obtain ⟨back, wholeOther, opensOther⟩ := headOther.exists_foldl movesOther
  exact rest_unique opens opensOther (whole.symm.trans wholeOther)

/-! ## The shapes -/

/-- The declarations of Java. -/
def declaration : Pattern :=
  row ((declarationPieces ++ [exactly "("]) ++ [many (except ";"), textEnd])

/-- What ends a method: the closing bracket, exceptions and an opening brace. -/
def methodEnd : List Pattern :=
  [exactly ")", blanks,
      optional (row [exactly "throws", gap, oneOrMore (one fun c =>
        isWord c || c == '.' || c == ',' || isBlank c)]),
      mark "\x7b", blanks] ++
    [textEnd]

/-- The methods of Java. -/
def method : Pattern :=
  row (methodPieces ++ enclosed "(" ";" ")" :: methodEnd.tail)

theorem headers_eq : Language.java.headers = [(.declaration, declaration), (.method, method)] :=
  rfl

theorem search_declaration_iff {line : Text} :
    declaration.search line = true ↔ ∃ rest, HasHead declarationPieces line rest ∧ ';' ∉ rest :=
  search_toEnd_iff (anchored_indent.row_cons _) rfl (by decide)

theorem methodEnd_ahead : methodEnd.any looksBack = false := by
  decide

theorem search_method_iff {line : Text} :
    method.search line = true ↔
      ∃ rest, HasHead methodPieces line rest ∧ ';' ∉ rest ∧ (row methodEnd).search rest = true := by
  have accepts (c : Char) : (!";".toList.contains c) = true ↔ c ≠ ';' := by
    simp
  constructor
  · intro found
    obtain ⟨b, spans⟩ := (anchored_indent.row_cons _).exists_of_search found
    obtain ⟨m, before, spans⟩ := (@spans_row_append _ _ methodPieces _).1 spans
    obtain ⟨n, parameters, tail⟩ := spans_row_cons.1 spans
    obtain ⟨p, opening, inner⟩ := spans_row_cons.1 parameters
    obtain ⟨q, run, closing⟩ := spans_row_cons.1 inner
    obtain ⟨stretch, free, reads⟩ := spans_many_one_iff.1 run
    have begun : begins methodEnd q.rest = true :=
      (begins_iff methodEnd_ahead).2 ⟨b, spans_row_cons.2 ⟨n, closing, tail⟩⟩
    refine ⟨p.rest, ⟨p.last, spans_row_append.2 ⟨m, before, opening⟩⟩, ?_,
      (search_iff_begins methodEnd_ahead).2 ⟨q.rest, ⟨stretch, reads.ahead.symm⟩, begun⟩⟩
    rw [reads.ahead, List.mem_append, not_or]
    exact ⟨fun mem => (accepts ';').1 (free ';' mem) rfl,
      not_mem_of_begins_toEnd (by decide) (by decide) (by decide) begun⟩
  · rintro ⟨rest, ⟨last, head⟩, free, found⟩
    obtain ⟨behind, ⟨inner, rfl⟩, begun⟩ := (search_iff_begins methodEnd_ahead).1 found
    obtain ⟨m, before, opening⟩ := spans_row_append.1 head
    let q : Place := ⟨inner.getLast?.or last, behind⟩
    obtain ⟨b, spans⟩ := (begins_iff methodEnd_ahead (a := q)).1 begun
    obtain ⟨n, closing, tail⟩ := spans_row_cons.1 spans
    have run : Spans (many (except ";")) ⟨last, inner ++ behind⟩ q :=
      spans_many_one_iff.2 ⟨inner, fun c mem => (accepts c).2 fun same =>
        free (List.mem_append_left _ (same ▸ mem)), rfl, rfl⟩
    have parameters : Spans (enclosed "(" ";" ")") m n :=
      spans_row_cons.2 ⟨_, opening, spans_row_cons.2 ⟨q, run, closing⟩⟩
    exact search_iff.2 ⟨_, mem_places_start none line, b, spans_row_append.2
      ⟨m, before, spans_row_cons.2 ⟨n, parameters, tail⟩⟩⟩

/-! ## A comment at the end -/

section

variable {line rest comment : Text}

theorem moves_of_mem {pieces : List Pattern} (mem : pieces ∈ [declarationPieces, methodPieces]) :
    Moves Scan.step [.apart] [.apart, .joined] (row pieces) := by
  simp only [List.mem_cons, List.not_mem_nil, or_false] at mem
  rcases mem with rfl | rfl
  · exact moves_declarationPieces
  · exact moves_methodPieces

theorem settled_of_mem : ∀ pieces ∈ [declarationPieces, methodPieces],
    (row (pieces ++ [exactly "("])).settled = true := by
  decide

theorem exists_hasHead_of_search (found : declaration.search line = true ∨ method.search line = true) :
    ∃ pieces ∈ [declarationPieces, methodPieces], ∃ rest, HasHead pieces line rest ∧ ';' ∉ rest := by
  rcases found with found | found
  · obtain ⟨rest, head, free⟩ := search_declaration_iff.1 found
    exact ⟨_, by simp, rest, head, free⟩
  · obtain ⟨rest, head, free, -⟩ := search_method_iff.1 found
    exact ⟨_, by simp, rest, head, free⟩

/-- Where the line has a head, the same heads are those of the line with a comment. -/
theorem exists_hasHead_append_iff {pieces others : List Pattern} (head : HasHead pieces line rest)
    (mem : pieces ∈ [declarationPieces, methodPieces])
    (memOther : others ∈ [declarationPieces, methodPieces]) {p : Text → Prop} :
    (∃ behind, HasHead others (line ++ ' ' :: '/' :: '/' :: comment) behind ∧ p behind) ↔
      HasHead others line rest ∧ p (rest ++ ' ' :: '/' :: '/' :: comment) := by
  have longer {some : List Pattern} (mem : some ∈ [declarationPieces, methodPieces]) :
      HasHead some (line ++ ' ' :: '/' :: '/' :: comment) (rest ++ ' ' :: '/' :: '/' :: comment) ↔
        HasHead some line rest :=
    leaves_append_iff (settled_of_mem some mem) rfl
  constructor
  · rintro ⟨behind, other, holds⟩
    obtain rfl := other.unique ((longer mem).2 head) (moves_of_mem memOther) (moves_of_mem mem)
    exact ⟨(longer memOther).1 other, holds⟩
  · rintro ⟨other, holds⟩
    exact ⟨_, (longer memOther).2 other, holds⟩

/-- A method ends behind every slash. -/
theorem search_methodEnd_append_iff :
    (row methodEnd).search (rest ++ ' ' :: '/' :: '/' :: comment) = true ↔
      (row methodEnd).search comment = true := by
  rw [search_iff_begins methodEnd_ahead, search_iff_begins methodEnd_ahead]
  constructor
  · rintro ⟨behind, suffix, begun⟩
    have free : '/' ∉ behind :=
      not_mem_of_begins_toEnd (by decide) (by decide) (by decide) begun
    refine ⟨behind, ?_, begun⟩
    have whole : rest ++ ' ' :: '/' :: '/' :: comment = (rest ++ [' ', '/']) ++ '/' :: comment := by
      simp
    rw [whole] at suffix
    exact suffix_of_not_mem suffix free
  · rintro ⟨behind, suffix, begun⟩
    have inComment : comment <:+ rest ++ ' ' :: '/' :: '/' :: comment :=
      ⟨rest ++ [' ', '/', '/'], by simp⟩
    exact ⟨behind, suffix.trans inComment, begun⟩

/-- A header is found with a comment at its end if the comment has no semicolon, and the header is a
declaration or the comment ends like a method. -/
theorem search_append_comment_iff
    (found : declaration.search line = true ∨ method.search line = true) :
    declaration.search (line ++ ' ' :: '/' :: '/' :: comment) = true ∨
        method.search (line ++ ' ' :: '/' :: '/' :: comment) = true ↔
      ';' ∉ comment ∧ (declaration.search line = true ∨ (row methodEnd).search comment = true) := by
  obtain ⟨pieces, mem, rest, head, free⟩ := exists_hasHead_of_search found
  have noSemicolon : ';' ∉ rest ++ ' ' :: '/' :: '/' :: comment ↔ ';' ∉ comment := by
    simp [free]
  have declared : declaration.search line = true ↔ HasHead declarationPieces line rest := by
    rw [search_declaration_iff]
    constructor
    · rintro ⟨other, declared, -⟩
      rwa [head.unique declared (moves_of_mem mem) moves_declarationPieces]
    · exact fun declared => ⟨rest, declared, free⟩
  rw [search_declaration_iff, search_method_iff,
    exists_hasHead_append_iff head mem (by simp), exists_hasHead_append_iff head mem (by simp),
    noSemicolon, search_methodEnd_append_iff, declared]
  constructor
  · rintro (⟨declared, none⟩ | ⟨-, none, ends⟩)
    · exact ⟨none, .inl declared⟩
    · exact ⟨none, .inr ends⟩
  · rintro ⟨none, declared | ends⟩
    · exact .inl ⟨declared, none⟩
    · simp only [List.mem_cons, List.not_mem_nil, or_false] at mem
      rcases mem with rfl | rfl
      · exact .inl ⟨head, none⟩
      · exact .inr ⟨head, none, ends⟩

end

end PatchSurvey.JavaHead
