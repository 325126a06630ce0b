import PatchSurvey.Path.TestFile
import PatchSurvey.Proofs.Path.Language
import PatchSurvey.Proofs.Pattern.Suffixes

/-! # Paths below a directory

No mark of a test file reaches across a slash. A path below a directory is a test file exactly
if the directory or the path carries a mark, and its language is that of the path. -/

namespace PatchSurvey.Path

open Pattern

/-! ## Marks -/

/-- The mark stands in a path below a directory exactly if it stands in one of the two. -/
def Joins (mark : Pattern) : Prop :=
  ∀ directory path : Text, mark.search (directory ++ '/' :: path) =
    (mark.search (directory ++ ['/']) || mark.search path)

variable {pieces : List Pattern}

/-- A mark joins if it does not matter to it what follows a slash. -/
theorem joins_row (ahead : pieces.any looksBack = false) (demands : begins pieces [] = false)
    (passes : ∀ front path : Text,
      begins pieces (front ++ '/' :: path) = begins pieces (front ++ ['/'])) :
    Joins (row pieces) := by
  intro directory path
  rw [Bool.eq_iff_iff, Bool.or_eq_true, search_iff_begins ahead, search_iff_begins ahead,
    search_iff_begins ahead]
  constructor
  · rintro ⟨rest, ends, begun⟩
    rcases suffix_append_cons_iff.1 ends with ⟨front, inside, rfl⟩ | ends
    · rw [passes] at begun
      exact .inl ⟨_, suffix_append_cons_iff.2 (.inl ⟨front, inside, rfl⟩), begun⟩
    · exact .inr ⟨rest, ends, begun⟩
  · rintro (⟨rest, ends, begun⟩ | ⟨rest, ends, begun⟩)
    · rcases suffix_append_cons_iff.1 ends with ⟨front, inside, rfl⟩ | ends
      · rw [← passes front path] at begun
        exact ⟨_, suffix_append_cons_iff.2 (.inl ⟨front, inside, rfl⟩), begun⟩
      · rw [List.suffix_nil.1 ends, demands] at begun
        cases begun
    · exact ⟨rest, suffix_append_cons_iff.2 (.inr ends), begun⟩

/-- A word with a slash at its end at most begins before a slash, or with it as its last. -/
theorem prefix_append_slash_iff {word front path : Text} (last : '/' ∉ word.dropLast) :
    word <+: front ++ '/' :: path ↔ word <+: front ++ ['/'] := by
  have whole : front ++ '/' :: path = (front ++ ['/']) ++ path := by
    rw [List.append_assoc, List.singleton_append]
  rw [whole]
  constructor
  · intro begun
    rcases List.prefix_or_prefix_of_prefix begun (List.prefix_append (front ++ ['/']) path) with
      inside | ⟨more, rfl⟩
    · exact inside
    · cases more with
      | nil => exact (List.append_nil _).symm ▸ List.prefix_rfl
      | cons c more =>
          rw [List.dropLast_append_of_ne_nil (List.cons_ne_nil c more)] at last
          simp at last
  · exact fun begun => begun.trans (List.prefix_append _ path)

theorem joins_exactly {word : String} (some : word.toList ≠ []) (last : '/' ∉ word.toList.dropLast) :
    Joins (exactly word) := by
  have ahead : [exactly word].any looksBack = false := by
    rw [List.any_cons, List.any_nil, Bool.or_false]
    exact looksBack_literal word.toList
  change Joins (row [exactly word])
  refine joins_row ahead ?_ fun front path => ?_
  · rw [← Bool.not_eq_true, begins_exactly_iff, List.prefix_nil]
    exact some
  · rw [Bool.eq_iff_iff, begins_exactly_iff, begins_exactly_iff]
    exact prefix_append_slash_iff last

section

variable (pieces) (ahead : pieces.any looksBack = false) (avoids : (row pieces).avoids '/' = true)
  (demands : begins (pieces ++ [textEnd]) [] = false)
include ahead avoids demands

theorem joins_textEnd : Joins (row (pieces ++ [textEnd])) := by
  have never := not_begins_textEnd ahead avoids (by decide)
  refine joins_row ?_ demands fun front path => (never front path).trans (never front []).symm
  rw [List.any_append, ahead]
  rfl

/-- A mark of a whole name joins too: the slash before the path begins the name. -/
theorem joins_name :
    Joins (row (either textStart (exactly "/") :: (pieces ++ [textEnd]))) := by
  have never := not_begins_textEnd ahead avoids (by decide)
  have aheadEnd : (pieces ++ [textEnd]).any looksBack = false := by
    rw [List.any_append, ahead]
    rfl
  -- what is behind a slash begins a name only if it is within the path
  have behind {directory path rest : Text} (ends : '/' :: rest <:+ directory ++ '/' :: path)
      (begun : begins (pieces ++ [textEnd]) rest = true) : rest = path ∨ '/' :: rest <:+ path := by
    rcases suffix_append_cons_iff.1 ends with ⟨front, -, same⟩ | ends
    · cases front with
      | nil => exact .inl (List.cons.inj same).2
      | cons c front =>
          obtain rfl : rest = front ++ '/' :: path := (List.cons.inj same).2
          rw [never] at begun
          cases begun
    · exact .inr ends
  intro directory path
  have single : "/".toList = ['/'] := rfl
  rw [Bool.eq_iff_iff, Bool.or_eq_true, search_part_iff_begins aheadEnd single,
    search_part_iff_begins aheadEnd single, search_part_iff_begins aheadEnd single, never, never]
  constructor
  · rintro (begun | ⟨rest, ends, begun⟩)
    · cases begun
    · rcases behind ends begun with rfl | ends
      · exact .inr (.inl begun)
      · exact .inr (.inr ⟨rest, ends, begun⟩)
  · rintro ((begun | ⟨rest, ends, begun⟩) | begun | ⟨rest, ends, begun⟩)
    · cases begun
    · rcases behind ends begun with rfl | ends
      · rw [demands] at begun
        cases begun
      · exact absurd (List.suffix_nil.1 ends) (List.cons_ne_nil _ _)
    · exact .inr ⟨path, List.suffix_append directory _, begun⟩
    · exact .inr ⟨rest, suffix_append_cons_iff.2 (.inr ends), begun⟩

end

theorem joins_testMarks : ∀ mark ∈ testMarks, Joins mark := by
  simp only [testMarks, List.forall_mem_cons]
  refine ⟨joins_exactly (by decide) (by decide), joins_exactly (by decide) (by decide),
    joins_exactly (by decide) (by decide), joins_exactly (by decide) (by decide),
    joins_textEnd [exactly ".test"] (by decide) (by decide) (by decide),
    joins_textEnd [exactly ".spec"] (by decide) (by decide) (by decide),
    joins_name [exactly "test_", many (except "/"), exactly ".py"] (by decide) (by decide)
      (by decide),
    joins_textEnd [exactly "_test.py"] (by decide) (by decide) (by decide),
    List.forall_mem_nil _⟩

/-- A path below a directory is a test file if the directory or the path is marked. -/
theorem isTestFile_append_slash (directory path : Text) :
    isTestFile (directory ++ '/' :: path) =
      (isTestFile (directory ++ ['/']) || isTestFile path) := by
  rw [Bool.eq_iff_iff, Bool.or_eq_true]
  simp only [isTestFile, List.any_eq_true]
  constructor
  · rintro ⟨mark, mem, found⟩
    rw [joins_testMarks mark mem, Bool.or_eq_true] at found
    exact found.imp (fun found => ⟨mark, mem, found⟩) fun found => ⟨mark, mem, found⟩
  · rintro (⟨mark, mem, found⟩ | ⟨mark, mem, found⟩)
    · exact ⟨mark, mem, by rw [joins_testMarks mark mem, found, Bool.true_or]⟩
    · exact ⟨mark, mem, by rw [joins_testMarks mark mem, found, Bool.or_true]⟩

/-! ## Languages -/

/-- The last mark of a joined text is in the second part, or stands between them. -/
theorem splitLast?_append_cons (mark : Char) (first second : Text) :
    splitLast? mark (first ++ mark :: second) =
      match splitLast? mark second with
      | some (before, after) => some (first ++ mark :: before, after)
      | none => some (first, second) := by
  induction first with
  | nil =>
      rw [List.nil_append, splitLast?]
      cases splitLast? mark second with
      | none => exact if_pos rfl
      | some parts => rfl
  | cons c first ih =>
      rw [List.cons_append, splitLast?, ih]
      cases splitLast? mark second <;> rfl

/-- A directory does not change the base name. -/
theorem baseName_append_slash (directory path : Text) :
    baseName (directory ++ '/' :: path) = baseName path := by
  rw [baseName, baseName, splitLast?_append_cons]
  cases splitLast? '/' path <;> rfl

theorem languageOf_append_slash (directory path : Text) :
    languageOf (directory ++ '/' :: path) = languageOf path := by
  rw [languageOf, languageOf, baseName_append_slash]

/-- A path below a directory is a test file exactly if the directory or the path is marked, and has
the language of the path. Below a directory without a mark nothing changes. -/
theorem isTestFile_and_languageOf_below (directory path : Text) :
    (isTestFile (directory ++ '/' :: path) = true ↔
      isTestFile (directory ++ ['/']) = true ∨ isTestFile path = true) ∧
    languageOf (directory ++ '/' :: path) = languageOf path ∧
    (isTestFile (directory ++ ['/']) = false →
      isTestFile (directory ++ '/' :: path) = isTestFile path) := by
  refine ⟨?_, languageOf_append_slash directory path, fun unmarked => ?_⟩
  · rw [isTestFile_append_slash, Bool.or_eq_true]
  · rw [isTestFile_append_slash, unmarked, Bool.false_or]

/-- A directory that is named like a test file carries no mark, and a name with a line feed at its
end keeps its mark. -/
theorem isTestFile_and_languageOf_below_testNamed :
    isTestFile "src/test_a.py/".toList = false ∧
      isTestFile "src/test_a.py/b.rs".toList = isTestFile "b.rs".toList ∧
      (isTestFile "src/test_a.py/test_b.py\n".toList = true ↔
        isTestFile "src/test_a.py/".toList = true ∨ isTestFile "test_b.py\n".toList = true) ∧
      isTestFile "test_b.py\n".toList = true ∧
      languageOf "src/test_a.py/b.rs".toList = languageOf "b.rs".toList := by
  have unmarked : isTestFile "src/test_a.py/".toList = false := by decide
  obtain ⟨-, language, unchanged⟩ :=
    isTestFile_and_languageOf_below "src/test_a.py".toList "b.rs".toList
  have ended := (isTestFile_and_languageOf_below "src/test_a.py".toList "test_b.py\n".toList).1
  exact ⟨unmarked, unchanged unmarked, ended, by decide, language⟩

end PatchSurvey.Path
