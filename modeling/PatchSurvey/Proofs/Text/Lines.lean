import PatchSurvey.Text.Basic

/-! # Line by line

A text is one line, or a line, a line feed and another text. A mark at the start
of a line stands there with or without the line feed and the carriage return that
end it. -/

namespace PatchSurvey.Text

/-- A line without a carriage return at its end is kept. -/
theorem dropReturn_of_getLast?_ne {line : Text} (h : line.getLast? ≠ some '\r') :
    dropReturn line = line := by
  rw [dropReturn, if_neg h]

/-- The carriage return is dropped behind every start that does not end in one. -/
theorem dropReturn_append {mark : Text} (h : mark.getLast? ≠ some '\r') (rest : Text) :
    dropReturn (mark ++ rest) = mark ++ dropReturn rest := by
  by_cases empty : rest = []
  · subst empty
    rw [List.append_nil, dropReturn_of_getLast?_ne h]
    simp [dropReturn]
  · have last : (mark ++ rest).getLast? = rest.getLast? := by
      rw [List.getLast?_append, Option.or_of_isSome]
      exact List.getLast?_isSome.2 empty
    rw [dropReturn, dropReturn, last]
    split
    · exact List.dropLast_append_of_ne_nil empty
    · rfl

theorem dropReturn_cons {c : Char} (h : c ≠ '\r') (rest : Text) :
    dropReturn (c :: rest) = c :: dropReturn rest := by
  have last : ([c] : Text).getLast? ≠ some '\r' := by simpa using h
  exact dropReturn_append last rest

/-- A line is what is left of it, with a carriage return where one was dropped. -/
theorem eq_dropReturn_append (line : Text) : ∃ tail, line = dropReturn line ++ tail := by
  by_cases h : line.getLast? = some '\r'
  · obtain ⟨body, rfl⟩ := List.getLast?_eq_some_iff.1 h
    exact ⟨['\r'], by rw [dropReturn, if_pos h, List.dropLast_concat]⟩
  · exact ⟨[], by rw [dropReturn_of_getLast?_ne h, List.append_nil]⟩

/-- A line begins with a mark if and only if what is left of it does. -/
theorem exists_dropReturn_eq_append_iff {mark : Text} (h : mark.getLast? ≠ some '\r')
    (line : Text) : (∃ rest, dropReturn line = mark ++ rest) ↔ ∃ rest, line = mark ++ rest := by
  constructor
  · rintro ⟨rest, same⟩
    obtain ⟨tail, whole⟩ := eq_dropReturn_append line
    exact ⟨rest ++ tail, by rw [whole, same, List.append_assoc]⟩
  · rintro ⟨rest, rfl⟩
    exact ⟨dropReturn rest, dropReturn_append h rest⟩

theorem startsWith_dropReturn {mark : Text} (h : mark.getLast? ≠ some '\r') (line : Text) :
    startsWith mark (dropReturn line) = startsWith mark line := by
  rw [Bool.eq_iff_iff, startsWith_iff, startsWith_iff]
  exact exists_dropReturn_eq_append_iff h line

/-- A mark is not completed by a character that it does not hold. -/
theorem startsWith_concat {mark : Text} {c : Char} (h : c ∉ mark) (line : Text) :
    startsWith mark (line ++ [c]) = startsWith mark line := by
  rw [Bool.eq_iff_iff, startsWith_iff, startsWith_iff]
  constructor
  · rintro ⟨rest, same⟩
    rcases List.eq_nil_or_concat rest with rfl | ⟨rest, d, rfl⟩
    · rw [List.append_nil] at same
      exact absurd (same ▸ List.mem_append_right _ (List.mem_singleton_self c)) h
    · rw [List.concat_eq_append, ← List.append_assoc] at same
      exact ⟨rest, (List.append_inj' same rfl).1⟩
  · rintro ⟨rest, rfl⟩
    exact ⟨rest ++ [c], List.append_assoc ..⟩

/-- A text without the mark is all that stands before it. -/
theorem takeWhile_ne_append {mark : Char} {text : Text} (plain : mark ∉ text) {rest : Text}
    (stop : ∀ c ∈ rest.head?, c = mark) : (text ++ rest).takeWhile (· ≠ mark) = text := by
  have other : ∀ c ∈ text, decide (c ≠ mark) = true := by
    intro c mem
    rw [decide_eq_true_eq]
    rintro rfl
    exact plain mem
  rw [List.takeWhile_append_of_pos other]
  cases rest with
  | nil => simp
  | cons c rest => simp [stop c rfl]

/-- What is joined has the characters of its parts and those between them. -/
theorem mem_of_mem_joinWith {between : Text} {parts : List Text} {c : Char}
    (mem : c ∈ joinWith between parts) : c ∈ between ∨ ∃ part ∈ parts, c ∈ part := by
  induction parts with
  | nil => cases mem
  | cons part parts ih =>
      cases parts with
      | nil => exact Or.inr ⟨part, List.mem_singleton_self part, by simpa [joinWith] using mem⟩
      | cons next parts =>
          rw [joinWith, List.intercalate_cons_cons, List.mem_append, List.mem_append] at mem
          rcases mem with (here | between) | later
          · exact Or.inr ⟨part, List.mem_cons_self .., here⟩
          · exact Or.inl between
          · refine (ih later).imp_right ?_
            rintro ⟨other, among, here⟩
            exact ⟨other, List.mem_cons_of_mem _ among, here⟩

theorem joinLines_cons (row : Text) {rows : List Text} (some : rows ≠ []) :
    joinLines (row :: rows) = row ++ '\n' :: joinLines rows := by
  cases rows with
  | nil => exact absurd rfl some
  | cons next rows => simp [joinLines]

theorem lines_line_append {line : Text} (plain : '\n' ∉ line) (rest : Text) :
    lines (line ++ '\n' :: rest) = line :: lines rest := by
  rw [lines_append_newline, lines_of_not_mem plain, List.singleton_append]

/-- The lines, each with a line feed behind it. -/
def unlines (rows : List Text) : Text :=
  rows.flatMap fun row => row ++ ['\n']

theorem unlines_cons (row : Text) (rows : List Text) :
    unlines (row :: rows) = row ++ '\n' :: unlines rows := by
  rw [unlines, List.flatMap_cons, List.append_assoc, List.singleton_append, unlines]

theorem unlines_cons_append (row : Text) (rows : List Text) (rest : Text) :
    unlines (row :: rows) ++ rest = row ++ '\n' :: (unlines rows ++ rest) := by
  rw [unlines_cons, List.append_assoc, List.cons_append]

/-- Behind the last line feed stands an empty line. -/
theorem lines_unlines {rows : List Text} (plain : ∀ row ∈ rows, '\n' ∉ row) :
    lines (unlines rows) = rows ++ [[]] := by
  induction rows with
  | nil => rfl
  | cons row rows ih =>
      obtain ⟨first, later⟩ := List.forall_mem_cons.1 plain
      rw [unlines_cons, lines_line_append first, ih later, List.cons_append]

theorem joinLines_append_nil (rows : List Text) : joinLines (rows ++ [[]]) = unlines rows := by
  induction rows with
  | nil => rfl
  | cons row rows ih =>
      rw [List.cons_append, joinLines_cons row (by simp), ih, unlines_cons]

/-- An empty line may stand behind the others. -/
theorem newline_not_mem_append_ended {rows : List Text} (plain : ∀ row ∈ rows, '\n' ∉ row)
    (ended : Bool) : ∀ row ∈ rows ++ (if ended then [[]] else []), '\n' ∉ row := by
  refine List.forall_mem_append.2 ⟨plain, ?_⟩
  cases ended <;> simp

/-- What holds of every single line, and of a line before a text of which it holds, holds of
every text. -/
@[elab_as_elim]
theorem line_induction {motive : Text → Prop} (last : ∀ line, '\n' ∉ line → motive line)
    (cons : ∀ line rest, '\n' ∉ line → motive rest → motive (line ++ '\n' :: rest))
    (text : Text) : motive text := by
  have rowwise (rows : List Text) (some : rows ≠ []) (plain : ∀ row ∈ rows, '\n' ∉ row) :
      motive (joinLines rows) := by
    induction rows with
    | nil => exact absurd rfl some
    | cons row rows ih =>
        obtain ⟨first, later⟩ := List.forall_mem_cons.1 plain
        by_cases alone : rows = []
        · subst alone
          simpa [joinLines] using last row first
        · rw [joinLines_cons row alone]
          exact cons row _ first (ih alone later)
  rw [← joinLines_lines text]
  exact rowwise _ (lines_ne_nil text) fun row mem => newline_not_mem_of_mem_lines mem

/-- The text is empty or ends with a line feed. -/
def Ended (text : Text) : Prop :=
  ∀ c ∈ text.getLast?, c = '\n'

instance (text : Text) : Decidable (Ended text) :=
  decidable_of_iff (text.getLast?.all (· = '\n') = true) (by simp [Ended, Option.all_eq_true])

/-- An ended text consists of whole lines. -/
theorem Ended.exists_unlines_eq {text : Text} (ended : text.Ended) :
    ∃ rows, (∀ row ∈ rows, '\n' ∉ row) ∧ text = unlines rows := by
  induction text using line_induction with
  | last line plain =>
      cases last : line.getLast? with
      | none =>
          rw [List.getLast?_eq_none_iff.1 last]
          exact ⟨[], by simp, rfl⟩
      | some c =>
          obtain rfl := ended c last
          exact absurd (List.mem_of_getLast? last) plain
  | cons line rest plain ih =>
      have later : rest.Ended := by
        intro c last
        apply ended c
        rw [List.getLast?_append, List.getLast?_cons, Option.mem_def.1 last]
        rfl
      obtain ⟨rows, unbroken, rfl⟩ := ih later
      exact ⟨line :: rows, List.forall_mem_cons.2 ⟨plain, unbroken⟩, (unlines_cons line rows).symm⟩

theorem ended_unlines (rows : List Text) : (unlines rows).Ended := by
  induction rows with
  | nil => nofun
  | cons row rows ih =>
      intro c last
      rw [unlines_cons, List.getLast?_append, List.getLast?_cons] at last
      cases behind : (unlines rows).getLast? with
      | none =>
          rw [behind] at last
          exact (Option.some.inj last).symm
      | some d =>
          rw [behind] at last
          exact ih c (behind.trans last)

/-- The characters of a line stand in the text. -/
theorem mem_of_mem_lines {text line : Text} (h : line ∈ lines text) {c : Char} (mem : c ∈ line) :
    c ∈ text := by
  induction text using line_induction with
  | last only plain =>
      rw [lines_of_not_mem plain] at h
      exact List.mem_singleton.1 h ▸ mem
  | cons first rest plain ih =>
      rw [lines_line_append plain] at h
      rcases List.mem_cons.1 h with rfl | h
      · exact List.mem_append_left _ mem
      · exact List.mem_append_right _ (List.mem_cons_of_mem _ (ih h))

end PatchSurvey.Text
