import Mathlib.Data.List.TakeWhile
import PatchSurvey.Proofs.Text.Tokens

/-! # Parts of a line

Blanks, gaps and words that are known to be such, to write lines with. Where a part of
one class ends is determined by what follows it. -/

namespace PatchSurvey.Text

/-- Any blanks. -/
structure Blanks where
  text : Text
  blank : text.all isBlank = true

/-- At least one blank. -/
structure Gap extends Blanks where
  some : text ≠ []

/-- A whole word. -/
structure Word where
  text : Text
  row : IsWordRow text

def Blanks.none : Blanks :=
  ⟨[], rfl⟩

def Gap.space : Gap :=
  ⟨⟨[' '], rfl⟩, List.cons_ne_nil _ _⟩

theorem Blanks.isBlank_of_mem (blanks : Blanks) : ∀ c ∈ blanks.text, isBlank c = true :=
  List.all_eq_true.1 blanks.blank

theorem Blanks.tokens_append (blanks : Blanks) (text : Text) :
    tokens (blanks.text ++ text) = tokens text :=
  tokens_blanks_append blanks.isBlank_of_mem text

theorem Gap.isWord_head?_append (gap : Gap) (text : Text) :
    (gap.text ++ text).head?.any isWord = false := by
  have alone : (gap.text ++ []).head?.any isWord = false :=
    isWord_head?_blanks_append gap.isBlank_of_mem rfl
  obtain ⟨c, more, whole⟩ := List.exists_cons_of_ne_nil gap.some
  rw [whole] at alone ⊢
  exact alone

/-! ## Where a part ends -/

/-- A text is cut in one way into characters of a class and a rest that begins with none. -/
theorem append_inj_of_stop {inClass : Char → Bool} {first second rest other : Text}
    (whole : first ++ rest = second ++ other) (allFirst : ∀ c ∈ first, inClass c = true)
    (allSecond : ∀ c ∈ second, inClass c = true) (stop : rest.head?.any inClass = false)
    (stopOther : other.head?.any inClass = false) : first = second ∧ rest = other := by
  have cut {part rest : Text} (all : ∀ c ∈ part, inClass c = true)
      (stop : rest.head?.any inClass = false) : (part ++ rest).dropWhile inClass = rest := by
    rw [List.dropWhile_append_of_pos all]
    cases rest with
    | nil => rfl
    | cons c rest => exact List.dropWhile_cons_of_neg (Bool.eq_false_iff.1 stop)
  have same : rest = other := by
    rw [← cut allFirst stop, whole, cut allSecond stopOther]
  subst same
  exact ⟨List.append_cancel_right whole, rfl⟩

/-- A part that does not end within a row of a class takes up the row. -/
theorem exists_eq_append_of_stop {inClass : Char → Bool} {row part rest behind : Text}
    (whole : row ++ rest = part ++ behind) (all : ∀ c ∈ row, inClass c = true)
    (stop : behind.head?.any inClass = false) :
    ∃ more, part = row ++ more ∧ rest = more ++ behind := by
  rcases List.append_eq_append_iff.1 whole with found | ⟨more, rfl, rfl⟩
  · exact found
  · cases more with
    | nil => exact ⟨[], by simp, rfl⟩
    | cons c more =>
        have inRow := all c (List.mem_append_right _ (List.mem_cons_self ..))
        exact absurd inRow (Bool.eq_false_iff.1 stop)

section

variable {mark : Char} {text : Text} (free : mark ∉ text)
include free

theorem ne_of_not_mem : ∀ c ∈ text, decide (c ≠ mark) = true := by
  intro c mem
  rw [decide_eq_true_eq]
  rintro rfl
  exact free mem

theorem dropWhile_ne_eq_nil : text.dropWhile (· ≠ mark) = [] :=
  List.dropWhile_eq_nil_iff.2 (ne_of_not_mem free)

/-- The first mark stands behind a text without it. -/
theorem dropWhile_ne_append (rest : Text) :
    (text ++ mark :: rest).dropWhile (· ≠ mark) = mark :: rest := by
  rw [List.dropWhile_append_of_pos (ne_of_not_mem free), List.dropWhile_cons_of_neg (by simp)]

end

/-- Behind the first mark two equal texts go on alike. -/
theorem rest_inj_of_not_mem {mark : Char} {first second rest other : Text}
    (whole : first ++ mark :: rest = second ++ mark :: other) (free : mark ∉ first)
    (freeOther : mark ∉ second) : rest = other := by
  have same := congrArg (List.dropWhile (· ≠ mark)) whole
  rw [dropWhile_ne_append free, dropWhile_ne_append freeOther] at same
  exact (List.cons.inj same).2

/-- Behind the last mark two equal texts go on alike. -/
theorem rest_inj_of_last {mark : Char} {first second rest other : Text}
    (whole : first ++ mark :: rest = second ++ mark :: other) (free : mark ∉ rest)
    (freeOther : mark ∉ other) : rest = other := by
  have reversed : rest.reverse ++ mark :: first.reverse = other.reverse ++ mark :: second.reverse := by
    simpa using congrArg List.reverse whole
  have before : first = second :=
    List.reverse_inj.1 (rest_inj_of_not_mem reversed (mt List.mem_reverse.1 free)
      (mt List.mem_reverse.1 freeOther))
  subst before
  exact (List.cons.inj (List.append_cancel_left whole)).2

theorem trimStart_cons {c : Char} (seen : isBlank c = false) (text : Text) :
    trimStart (c :: text) = c :: text :=
  List.dropWhile_cons_of_neg (Bool.eq_false_iff.1 seen)

theorem trimStart_word_append {word : Text} (row : IsWordRow word) (text : Text) :
    trimStart (word ++ text) = word ++ text := by
  obtain ⟨c, word, rfl⟩ := List.exists_cons_of_ne_nil row.1
  exact trimStart_cons (not_isBlank_of_isWord (row.2 c (List.mem_cons_self ..))) _

/-- The first visible character. -/
theorem head?_trimStart_append (text rest : Text) :
    (trimStart (text ++ rest)).head? = (trimStart text).head?.or (trimStart rest).head? := by
  rw [trimStart, List.dropWhile_append, ← trimStart]
  cases trimStart text with
  | nil => rfl
  | cons c more => rfl

/-- Blanks before a text add no token. -/
theorem tokens_trimStart (text : Text) : tokens (trimStart text) = tokens text := by
  have blank : ∀ c ∈ text.takeWhile isBlank, isBlank c = true :=
    fun c mem => List.mem_takeWhile_imp mem
  calc
    tokens (trimStart text) = tokens (text.takeWhile isBlank ++ trimStart text) :=
      (tokens_blanks_append blank _).symm
    _ = tokens text := by rw [trimStart, List.takeWhile_append_dropWhile]

theorem trimStart_blanks_append {blanks : Text} (blank : ∀ c ∈ blanks, isBlank c = true)
    (text : Text) : trimStart (blanks ++ text) = trimStart text :=
  List.dropWhile_append_of_pos blank

/-- A text is its trimmed form between blanks. -/
theorem exists_eq_append_trim (text : Text) :
    ∃ indent behind : Blanks, text = indent.text ++ (trim text ++ behind.text) := by
  let indent : Blanks :=
    ⟨text.takeWhile isBlank, List.all_eq_true.2 fun c mem => List.mem_takeWhile_imp mem⟩
  let behind : Blanks :=
    ⟨((trimStart text).reverse.takeWhile isBlank).reverse, List.all_eq_true.2 fun c mem =>
      List.mem_takeWhile_imp (List.mem_reverse.1 mem)⟩
  have whole : trimStart text = trim text ++ behind.text := by
    rw [trim, trimEnd, ← List.reverse_append, List.takeWhile_append_dropWhile, List.reverse_reverse]
  refine ⟨indent, behind, ?_⟩
  rw [← whole, trimStart, List.takeWhile_append_dropWhile]

theorem exists_append_of_head?_trimStart {text : Text} {c : Char}
    (first : (trimStart text).head? = some c) :
    ∃ blanks rest, (∀ d ∈ blanks, isBlank d = true) ∧ text = blanks ++ c :: rest := by
  obtain ⟨rest, whole⟩ := List.head?_eq_some_iff.1 first
  refine ⟨text.takeWhile isBlank, rest, fun d mem => List.mem_takeWhile_imp mem, ?_⟩
  rw [← whole, trimStart, List.takeWhile_append_dropWhile]

/-- Behind blanks a text begins as its first token. -/
theorem head?_trimStart_of_tokens {text : Text} {c : Char} (seen : isBlank c = false)
    (first : (tokens text).head? = some [c]) : (trimStart text).head? = some c := by
  obtain ⟨rest, whole⟩ := List.head?_eq_some_iff.1 first
  obtain ⟨blanks, behind, blank, rfl, -, -⟩ := exists_append_of_tokens whole
  rw [trimStart_blanks_append blank, List.singleton_append, trimStart_cons seen, List.head?_cons]

end PatchSurvey.Text
