import PatchSurvey.Proofs.Pattern.Scan
import PatchSurvey.Proofs.Text.Tokens
import PatchSurvey.Signal.FunctionTable

/-! # Where the parameters of a Java header open

Before the parameters of a header, brackets enclose the arguments of annotations, and
may stand among type parameters. A scan with six states tells them apart, so that a line
has one place at most where the parameters of a header can open. -/

namespace PatchSurvey.JavaHead

open Pattern Text

/-- Where a scan for the opening bracket stands. -/
inductive Scan where
  /-- At the start or behind a blank. -/
  | apart
  /-- Behind a visible character. -/
  | joined
  /-- In the name of an annotation. -/
  | marked
  | arguments
  | parameters
  | opened
deriving DecidableEq, Repr

namespace Scan

/-- The scan reads a character. -/
def step : Scan → Char → Scan
  | apart, c =>
      if c = '(' then opened else if isBlank c then apart else if c = '@' then marked
      else if c = '<' then parameters else joined
  | joined, c => if c = '(' then opened else if isBlank c then apart else joined
  | marked, c =>
      if c = '(' then arguments else if isBlank c then apart else if isWord c then marked
      else joined
  | arguments, c => if c = ')' then joined else arguments
  | parameters, c => if c = '>' then joined else parameters
  | opened, _ => opened

theorem foldl_opened (text : Text) : text.foldl step opened = opened := by
  induction text with
  | nil => rfl
  | cons c text ih => exact ih

/-! ## Characters -/

theorem step_of_isBlank {c : Char} (blank : isBlank c = true) :
    ∀ state ∈ [apart, joined, marked], state.step c ∈ [apart] := by
  have bracket : c ≠ '(' := by
    rintro rfl
    exact absurd blank (by decide)
  simp [step, blank, bracket]

/-- The characters at which something opens or a part ends. -/
def openers : List Char :=
  '(' :: '@' :: '<' :: blankCharacters

/-- Within a name or a type nothing opens. -/
theorem step_of_plain {accepts : Char → Bool}
    (refuses : (openers.all fun d => !accepts d) = true) {c : Char} (accepted : accepts c = true) :
    ∀ state ∈ [apart, joined], state.step c ∈ [joined] := by
  have other : ∀ d ∈ openers, c ≠ d := by
    rintro d mem rfl
    have refused := List.all_eq_true.1 refuses c mem
    rw [accepted] at refused
    cases refused
  have seen : isBlank c = false :=
    Bool.eq_false_iff.2 fun blank =>
      other c (by simp [openers, mem_blankCharacters_of_isBlank blank]) rfl
  have bracket := other '(' (by simp [openers])
  have sign := other '@' (by simp [openers])
  have angle := other '<' (by simp [openers])
  simp [step, seen, bracket, sign, angle]

theorem step_marked {c : Char} (inName : isWord c = true) : marked.step c = marked := by
  have bracket : c ≠ '(' := by
    rintro rfl
    exact absurd inName (by decide)
  simp [step, bracket, not_isBlank_of_isWord inName, inName]

/-- The states within the arguments of a type. -/
def typeArguments : List Scan :=
  [apart, joined, marked, parameters]

theorem step_typeArguments {c : Char} (other : c ≠ '(') :
    ∀ state ∈ typeArguments, state.step c ∈ typeArguments := by
  intro state mem
  simp only [typeArguments, List.mem_cons, List.not_mem_nil, or_false] at mem
  rcases mem with rfl | rfl | rfl | rfl <;> simp only [step, if_neg other] <;> split_ifs <;> decide

end Scan

open Scan

/-! ## Pieces of a head -/

theorem moves_blanks {states : List Scan} (among : states ⊆ [apart, joined, marked])
    (stays : apart ∈ states) : Moves step states states blanks := by
  refine (moves_one fun state mem c accepted => ?_).many
  rw [List.mem_singleton.1 (step_of_isBlank accepted state (among mem))]
  exact stays

theorem moves_gap {states : List Scan} (among : states ⊆ [apart, joined, marked]) :
    Moves step states [apart] gap :=
  (moves_one fun state mem _ accepted => step_of_isBlank accepted state (among mem)).oneOrMore
    (moves_one fun state mem _ accepted =>
      step_of_isBlank accepted state (List.mem_cons.2 (.inl (List.mem_singleton.1 mem))))

theorem moves_indent : Moves step [apart] [apart] indent :=
  moves_textStart.row_cons (moves_blanks (by decide) (by decide)).row_singleton

/-- A row of characters of a class in which nothing opens. -/
theorem moves_plain {accepts : Char → Bool}
    (refuses : (openers.all fun d => !accepts d) = true) :
    Moves step [apart] [joined] (oneOrMore (one accepts)) :=
  (moves_one fun state mem _ accepted => step_of_plain refuses accepted state
      (List.mem_cons.2 (.inl (List.mem_singleton.1 mem)))).oneOrMore
    (moves_one fun state mem _ accepted => step_of_plain refuses accepted state
      (List.mem_cons_of_mem _ mem))

/-- Up to a closing mark the scan stays where it is. -/
theorem moves_except {states : List Scan} {stops : String}
    (stays : ∀ c, c ∉ stops.toList → ∀ state ∈ states, state.step c ∈ states) :
    Moves step states states (except stops) := by
  refine moves_one fun state mem c accepted => stays c ?_ state mem
  rwa [Bool.not_eq_true', ← Bool.not_eq_true, List.contains_iff_mem] at accepted

theorem moves_arguments : Moves step [arguments] [arguments] (except ")") := by
  refine moves_except fun c other state mem => ?_
  have open' : c ≠ ')' := fun same => other (List.mem_singleton.2 same)
  rw [List.mem_singleton.1 mem, step, if_neg open']
  exact List.mem_singleton_self _

theorem moves_parameterList : Moves step [parameters] [parameters] (except ">") := by
  refine moves_except fun c other state mem => ?_
  have open' : c ≠ '>' := fun same => other (List.mem_singleton.2 same)
  rw [List.mem_singleton.1 mem, step, if_neg open']
  exact List.mem_singleton_self _

theorem moves_annotations : Moves step [apart] [apart] HeaderTable.javaAnnotations := by
  have named : Moves step [marked] [marked] name := by
    have char : Moves step [marked] [marked] wordChar := by
      refine moves_one fun state mem c accepted => ?_
      rw [List.mem_singleton.1 mem, step_marked accepted]
      exact List.mem_singleton_self _
    exact char.oneOrMore char
  have opening : Moves step [marked] [arguments] (exactly "(") := moves_exactly (by decide)
  have closing : Moves step [arguments] [marked, joined] (exactly ")") := moves_exactly (by decide)
  have enclosed : Moves step [marked] [marked, joined] (enclosed "(" ")" ")") :=
    opening.row_cons (moves_arguments.many.row_cons closing.row_singleton)
  have sign : Moves step [apart] [marked] (exactly "@") := moves_exactly (by decide)
  exact (sign.row_cons (named.row_cons ((enclosed.optional (by decide)).row_cons
    (moves_gap (by decide)).row_singleton))).many

theorem moves_oneKeyword {list : List String}
    (rows : ∀ word ∈ list, word.toList.foldl step apart = joined) :
    Moves step [apart] [apart] (oneKeyword list) := by
  have words : Moves step [apart] [joined] (words list) := by
    refine moves_words fun word mem state among => ?_
    rw [List.mem_singleton.1 among, rows word mem]
    exact List.mem_singleton_self _
  exact words.row_cons (moves_gap (by decide)).row_singleton

theorem moves_parameters : Moves step [apart] [apart] HeaderTable.javaParameters := by
  have opening : Moves step [apart] [parameters] (exactly "<") := moves_exactly (by decide)
  have closing : Moves step [parameters] [joined] (exactly ">") := moves_exactly (by decide)
  have inner : Moves step [parameters] [parameters] (oneOrMore (except ">")) :=
    moves_parameterList.oneOrMore moves_parameterList
  have whole : Moves step [apart] [apart] (row [exactly "<", oneOrMore (except ">"), exactly ">", gap]) :=
    opening.row_cons (inner.row_cons (closing.row_cons (moves_gap (by decide)).row_singleton))
  exact whole.optional (List.Subset.refl _)

theorem moves_type : Moves step [apart] [joined] HeaderTable.javaType := by
  have arguments : Moves step [joined] [joined] (enclosed "<" ";()\x7b\x7d" ">") := by
    have inner : Moves step typeArguments typeArguments (except ";()\x7b\x7d") :=
      moves_except fun c other => step_typeArguments fun same => other (by simp [same])
    exact (moves_exactly (by decide)).row_cons
      (inner.many.row_cons (moves_exactly (by decide)).row_singleton)
  have brackets : Moves step [joined] [joined] (exactly "[]") := moves_exactly (by decide)
  exact (moves_plain (by decide +kernel)).row_cons
    ((arguments.optional (List.Subset.refl _)).row_cons brackets.many.row_singleton)

/-! ## Heads -/

/-- Modifiers of a declaration. -/
def modifiers : List String :=
  ["public", "private", "protected", "static", "final", "abstract", "synchronized", "native",
    "default"]

/-- What a declaration has before the bracket of its parameters. -/
def declarationPieces : List Pattern :=
  [indent, HeaderTable.javaAnnotations, oneOrMore (oneKeyword modifiers),
    HeaderTable.javaParameters, optional (row [HeaderTable.javaType, gap]), name, blanks]

/-- What a method has before the bracket of its parameters. -/
def methodPieces : List Pattern :=
  [indent, HeaderTable.javaAnnotations, HeaderTable.javaParameters, HeaderTable.javaType, gap,
    name, blanks]

theorem moves_nameBlanks : Moves step [apart] [apart, joined] (row [name, blanks]) := by
  have named : Moves step [apart] [apart, joined] name :=
    (moves_plain (by decide +kernel)).mono (List.Subset.refl _) (by decide)
  exact named.row_cons (moves_blanks (by decide) (by decide)).row_singleton

theorem moves_declarationPieces : Moves step [apart] [apart, joined] (row declarationPieces) := by
  have modified : Moves step [apart] [apart] (oneKeyword modifiers) :=
    moves_oneKeyword (by decide)
  have typed : Moves step [apart] [apart] (row [HeaderTable.javaType, gap]) :=
    moves_type.row_cons (moves_gap (by decide)).row_singleton
  exact moves_indent.row_cons (moves_annotations.row_cons ((modified.oneOrMore modified).row_cons
    (moves_parameters.row_cons ((typed.optional (List.Subset.refl _)).row_cons moves_nameBlanks))))

theorem moves_methodPieces : Moves step [apart] [apart, joined] (row methodPieces) :=
  moves_indent.row_cons (moves_annotations.row_cons (moves_parameters.row_cons
    (moves_type.row_cons ((moves_gap (by decide)).row_cons moves_nameBlanks))))

/-- The parameters open in one place at most. -/
theorem rest_unique {first second rest other : Text}
    (opens : first.foldl step apart ∈ [apart, joined])
    (opensOther : second.foldl step apart ∈ [apart, joined])
    (whole : first ++ '(' :: rest = second ++ '(' :: other) : rest = other := by
  have passed {front more : Text} (opens : front.foldl step apart ∈ [apart, joined])
      (opensLater : (front ++ '(' :: more).foldl step apart ∈ [apart, joined]) : False := by
    have bracket : ∀ state ∈ [apart, joined], state.step '(' = opened := by decide
    rw [List.foldl_append, List.foldl_cons, bracket _ opens, foldl_opened] at opensLater
    exact absurd opensLater (by decide)
  rcases List.append_eq_append_iff.1 whole with ⟨more, rfl, same⟩ | ⟨more, rfl, same⟩
  · cases more with
    | nil => exact (List.cons.inj same).2
    | cons c more =>
        obtain rfl := (List.cons.inj same).1
        exact (passed opens opensOther).elim
  · cases more with
    | nil => exact (List.cons.inj same).2.symm
    | cons c more =>
        obtain rfl := (List.cons.inj same).1
        exact (passed opensOther opens).elim

end PatchSurvey.JavaHead
