import Mathlib.Data.List.TakeWhile
import PatchSurvey.Proofs.Json.Grammar
import PatchSurvey.Proofs.Text.Numeral

/-! # Strings, numbers and words are read by the grammar

What the reader takes off the front of a text is spelled as the grammar says, and whatever the
grammar spells is taken off in full, up to a character that cannot go on with it. -/

namespace PatchSurvey.Json

/-! ## What stands behind a value -/

/-- The characters that can stand behind a value. -/
def breaks : List Char :=
  [' ', '\t', '\n', '\r', ',', ']', '}']

/-- Nothing goes on with the value that stands before the text. -/
def Breaks (rest : Text) : Prop :=
  ∀ c ∈ rest.head?, c ∈ breaks

theorem breaks_nil : Breaks [] := by
  intro c head
  cases head

theorem breaks_cons {c : Char} (mem : c ∈ breaks) (rest : Text) : Breaks (c :: rest) := by
  intro d head
  obtain rfl := Option.some.inj head
  exact mem

theorem mem_breaks_of_isSpace {c : Char} (space : isSpace c = true) : c ∈ breaks := by
  simp only [isSpace, Bool.or_eq_true, beq_iff_eq] at space
  rcases space with ((rfl | rfl) | rfl) | rfl <;> decide

theorem Spaces.breaks_append {spaces rest : Text} (white : Spaces spaces) (breaks : Breaks rest) :
    Breaks (spaces ++ rest) := by
  cases spaces with
  | nil => exact breaks
  | cons c spaces => exact breaks_cons (mem_breaks_of_isSpace (white c List.mem_cons_self)) _

theorem Breaks.head?_ne {rest : Text} (breaks : Breaks rest) {c : Char} (other : c ∉ Json.breaks) :
    rest.head? ≠ some c :=
  fun head => other (breaks c head)

/-! ## What results say -/

/-- An integer in the text has more digits than can be read. -/
def HasLongInteger (fault : NumeralTooLong) (text : Text) : Prop :=
  ∃ digits, WholeRow digits ∧ digits <:+: text ∧ ¬ IsShort digits ∧ fault = ⟨digits.length⟩

theorem HasLongInteger.mono {fault : NumeralTooLong} {text more : Text}
    (long : HasLongInteger fault text) (within : text <:+: more) : HasLongInteger fault more := by
  obtain ⟨digits, row, inside, tooLong, same⟩ := long
  exact ⟨digits, row, inside.trans within, tooLong, same⟩

/-- A string in the text has a half of a pair alone. -/
def HasHalfPair (text : Text) : Prop :=
  ∃ body pieces, SpellsPieces body pieces ∧ joinPieces pieces = none ∧
    '"' :: (body ++ ['"']) <:+: text

theorem HasHalfPair.mono {text more : Text} (half : HasHalfPair text) (within : text <:+: more) :
    HasHalfPair more := by
  obtain ⟨body, pieces, spells, alone, inside⟩ := half
  exact ⟨body, pieces, spells, alone, inside.trans within⟩

/-- The result follows the text: what was read is spelled at its front, before the closing mark, a
refused integer or string stands in it, and it is deep if it goes too deep. -/
def Follows {α : Type} (spells : Text → α → Prop) (deep : Text → Prop) (close text : Text) :
    Except ReadError (α × Text) → Prop
  | .ok (value, rest) => ∃ front, text = front ++ (close ++ rest) ∧ spells front value
  | .error .malformed => True
  | .error (.tooLong fault) => HasLongInteger fault text
  | .error .tooDeep => deep text
  | .error .halfPair => HasHalfPair text

/-- What is read as a value, in the room that is left. -/
abbrev FollowsValue (room : Nat) (text : Text) : Except ReadError (Json × Text) → Prop :=
  Follows (fun front value => Spells .read room front (.value value))
    (Overflows .read room .value) [] text

/-- A result that follows a text within another one may be used for what follows that one. -/
theorem Follows.bind {α β : Type} {spells : Text → α → Prop} {spellsNext : Text → β → Prop}
    {deep deepNext : Text → Prop} {close closeNext inner outer : Text}
    {result : Except ReadError (α × Text)} {next : α × Text → Except ReadError (β × Text)}
    (first : Follows spells deep close inner result) (within : inner <:+: outer)
    (deeper : deep inner → deepNext outer)
    (others : ∀ value rest front, inner = front ++ (close ++ rest) → spells front value →
      Follows spellsNext deepNext closeNext outer (next (value, rest))) :
    Follows spellsNext deepNext closeNext outer (result >>= next) := by
  cases result with
  | ok taken =>
      obtain ⟨value, rest⟩ := taken
      obtain ⟨front, whole, spelled⟩ := first
      exact others value rest front whole spelled
  | error error =>
      cases error with
      | malformed => trivial
      | tooLong fault => exact HasLongInteger.mono first within
      | tooDeep => exact deeper first
      | halfPair => exact HasHalfPair.mono first within

/-- Why a text that is spelled may be refused: an integer or a string is taken by the terms but not
by the reader, or the reader has less room. -/
inductive Refuses (terms : Terms) (less : Prop) : ReadError → Prop
  | tooLong {digits : Text} (fit : terms.integer digits) (long : ¬ IsShort digits)
      (fault : NumeralTooLong) : Refuses terms less (.tooLong fault)
  | halfPair {pieces : List Piece} {text : Text} (stands : terms.string pieces text)
      (alone : joinPieces pieces = none) : Refuses terms less .halfPair
  | tooDeep (shallow : less) : Refuses terms less .tooDeep

/-- The result gives the value, unless there is a reason to refuse it. -/
def Gains {α : Type} (terms : Terms) (less : Prop) (result : Except ReadError α) (value : α) :
    Prop :=
  result = .ok value ∨ ∃ error, Refuses terms less error ∧ result = .error error

theorem Gains.bind {α β : Type} {terms : Terms} {less : Prop} {value : α} {other : β}
    {result : Except ReadError α} {next : α → Except ReadError β}
    (first : Gains terms less result value) (others : Gains terms less (next value) other) :
    Gains terms less (result >>= next) other := by
  rcases first with rfl | ⟨error, refuses, rfl⟩
  · exact others
  · exact .inr ⟨error, refuses, rfl⟩

theorem Gains.imp {α : Type} {terms : Terms} {less other : Prop} {result : Except ReadError α}
    {value : α} (gains : Gains terms less result value) (imp : less → other) :
    Gains terms other result value := by
  rcases gains with done | ⟨error, refuses, refused⟩
  · exact .inl done
  · refine .inr ⟨error, ?_, refused⟩
    cases refuses with
    | tooLong fit long fault => exact .tooLong fit long fault
    | halfPair stands alone => exact .halfPair stands alone
    | tooDeep shallow => exact .tooDeep (imp shallow)

/-- The reader refuses nothing that it takes, if it has room. -/
theorem Gains.eq_ok {α : Type} {less : Prop} {result : Except ReadError α} {value : α}
    (gains : Gains .read less result value) (enough : ¬ less) : result = .ok value := by
  rcases gains with done | ⟨error, refuses, -⟩
  · exact done
  · cases refuses with
    | tooLong fit long => exact absurd fit long
    | halfPair stands alone => cases alone.symm.trans stands
    | tooDeep shallow => exact absurd shallow enough

/-! ## Strings -/

theorem readPieces_shortEscape {e c : Char} (short : shortEscape? e = some c) (rest : Text) :
    readPieces ('\\' :: e :: rest) =
      (readPieces rest).map fun (pieces, rest) => (.char c :: pieces, rest) := by
  have other : e ≠ 'u' := by rintro rfl; cases short
  rw [readPieces, short]
  · cases readPieces rest <;> rfl
  · simp [other]

theorem readPieces_unit {a b c d : Char} {value : Nat} (unit : unitValue? a b c d = some value)
    (rest : Text) :
    readPieces ('\\' :: 'u' :: a :: b :: c :: d :: rest) =
      (readPieces rest).map fun (pieces, rest) => (.unit value :: pieces, rest) := by
  rw [readPieces, unit]
  cases readPieces rest <;> rfl

theorem readPieces_plain {c : Char} (visible : ¬ c.toNat < 0x20) (noQuote : c ≠ '"')
    (noMark : c ≠ '\\') (rest : Text) :
    readPieces (c :: rest) =
      (readPieces rest).map fun (pieces, rest) => (.char c :: pieces, rest) := by
  rw [readPieces, if_neg]
  · cases readPieces rest <;> rfl
  · simp [visible, noMark]
  all_goals simp [noQuote, noMark]

theorem exists_spellsPieces_of_readPieces {text rest : Text} {pieces : List Piece}
    (read : readPieces text = some (pieces, rest)) :
    ∃ body, text = body ++ '"' :: rest ∧ SpellsPieces body pieces := by
  fun_induction readPieces text generalizing pieces with
  | case1 => cases read
  | case2 =>
      obtain ⟨rfl, rfl⟩ := Prod.mk.inj (Option.some.inj read)
      exact ⟨[], rfl, .nil⟩
  | case3 a b c d behind ih =>
      simp only [bind, Option.bind_eq_some_iff, pure, Option.some.injEq, Prod.mk.injEq] at read
      obtain ⟨value, digits, ⟨more, next⟩, later, rfl, rfl⟩ := read
      obtain ⟨body, rfl, others⟩ := ih later
      exact ⟨_, rfl, .cons (.unit digits) others⟩
  | case4 e behind _ ih =>
      simp only [bind, Option.bind_eq_some_iff, pure, Option.some.injEq, Prod.mk.injEq] at read
      obtain ⟨c, escape, ⟨more, next⟩, later, rfl, rfl⟩ := read
      obtain ⟨body, rfl, others⟩ := ih later
      exact ⟨_, rfl, .cons (.short escape) others⟩
  | case5 => cases read
  | case6 c behind noQuote _ _ visible ih =>
      simp only [bind, Option.bind_eq_some_iff, pure, Option.some.injEq, Prod.mk.injEq] at read
      obtain ⟨⟨more, next⟩, later, rfl, rfl⟩ := read
      obtain ⟨body, rfl, others⟩ := ih later
      obtain ⟨visible, noMark⟩ := not_or.1 visible
      exact ⟨_, rfl, .cons (.plain visible noQuote noMark) others⟩

theorem SpellsPiece.readPieces_append {text : Text} {piece : Piece} (spells : SpellsPiece text piece)
    (rest : Text) :
    readPieces (text ++ rest) =
      (readPieces rest).map fun (pieces, rest) => (piece :: pieces, rest) := by
  cases spells with
  | plain visible noQuote noMark => exact readPieces_plain visible noQuote noMark rest
  | short escape => exact readPieces_shortEscape escape rest
  | unit digits => exact readPieces_unit digits rest

theorem SpellsPieces.readPieces_append {body : Text} {pieces : List Piece}
    (spells : SpellsPieces body pieces) (rest : Text) :
    readPieces (body ++ '"' :: rest) = some (pieces, rest) := by
  induction spells with
  | nil => rfl
  | cons first _ ih =>
      rw [List.append_assoc, first.readPieces_append, ih]
      rfl

/-- A string is read up to its closing quote. -/
theorem SpellsString.exists_readString {terms : Terms} {text value : Text}
    (spells : SpellsString terms text value) :
    ∃ more, text = '"' :: more ∧
      ∀ less rest, Gains terms less (readString (more ++ rest)) (value, rest) := by
  cases spells with
  | @quoted body value pieces inner stands =>
      refine ⟨_, rfl, fun less rest => ?_⟩
      rw [List.append_assoc, List.singleton_append]
      cases joins : joinPieces pieces with
      | none =>
          refine .inr ⟨.halfPair, .halfPair stands joins, ?_⟩
          simp only [readString, inner.readPieces_append, joins]
      | some whole =>
          refine .inl ?_
          simp only [readString, inner.readPieces_append, joins, terms.joined stands joins]

/-- What is read as a string is spelled at the front of the text. -/
theorem follows_readString (deep : Text → Prop) (text : Text) :
    Follows (SpellsString .read) deep [] ('"' :: text) (readString text) := by
  rw [readString]
  cases taken : readPieces text with
  | none => trivial
  | some parts =>
      obtain ⟨pieces, rest⟩ := parts
      obtain ⟨body, rfl, inner⟩ := exists_spellsPieces_of_readPieces taken
      have whole : '"' :: (body ++ '"' :: rest) = '"' :: (body ++ ['"']) ++ rest := by simp
      rw [whole]
      cases joins : joinPieces pieces with
      | none =>
          simp only [joins]
          exact ⟨body, pieces, inner, joins, (List.prefix_append _ rest).isInfix⟩
      | some value =>
          simp only [joins]
          exact ⟨'"' :: (body ++ ['"']), rfl, .quoted inner joins⟩

/-! ## Numbers -/

/-- A row of digits is taken off what follows it. -/
theorem takeWhile_isDigit_append {digits rest : Text} (all : ∀ c ∈ digits, c.isDigit = true)
    (other : ∀ c ∈ rest.head?, c.isDigit = false) :
    (digits ++ rest).takeWhile Char.isDigit = digits ∧
      (digits ++ rest).dropWhile Char.isDigit = rest := by
  rw [List.takeWhile_append_of_pos all, List.dropWhile_append_of_pos all]
  cases rest with
  | nil => exact ⟨List.append_nil _, rfl⟩
  | cons c rest =>
      have stop : ¬ c.isDigit = true := by simp [other c rfl]
      rw [List.takeWhile_cons_of_neg stop, List.dropWhile_cons_of_neg stop]
      exact ⟨List.append_nil _, rfl⟩

theorem digitRow_takeWhile {text : Text} {c : Char} {digits : Text}
    (taken : text.takeWhile Char.isDigit = c :: digits) : DigitRow (c :: digits) := by
  rw [← taken]
  refine ⟨by rw [taken]; exact List.cons_ne_nil c digits, fun d mem => ?_⟩
  exact List.mem_takeWhile_imp mem

theorem Breaks.not_isDigit {rest : Text} (breaks : Breaks rest) :
    ∀ c ∈ rest.head?, c.isDigit = false := by
  have all : ∀ c ∈ Json.breaks, c.isDigit = false := by simp [Json.breaks]
  exact fun c head => all c (breaks c head)

theorem ne_of_isDigit {digit c : Char} (isDigit : digit.isDigit = true)
    (other : c.isDigit = false) : digit ≠ c := by
  rintro rfl
  rw [other] at isDigit
  cases isDigit

theorem DigitRow.exists_cons {digits : Text} (row : DigitRow digits) :
    ∃ first more, digits = first :: more ∧ first.isDigit = true := by
  obtain ⟨first, more, rfl⟩ := List.exists_cons_of_ne_nil row.some
  exact ⟨first, more, rfl, row.all first List.mem_cons_self⟩

/-! ### Fractions -/

/-- A fraction is taken off the front, if one stands there. -/
theorem exists_spellsFraction (text : Text) :
    ∃ front, text = front ++ ((takeFraction text).map (·.2)).getD text ∧
      SpellsFraction front ((takeFraction text).map (·.1)) := by
  fun_cases takeFraction text with
  | case1 rest none => exact ⟨[], rfl, .absent⟩
  | case2 rest some =>
      refine ⟨'.' :: rest.takeWhile Char.isDigit, ?_, .places ⟨some, ?_⟩⟩
      · exact congrArg ('.' :: ·) List.takeWhile_append_dropWhile.symm
      · exact fun c mem => List.mem_takeWhile_imp mem
  | case3 => exact ⟨[], rfl, .absent⟩

/-- A fraction is taken off what does not go on with it. -/
theorem SpellsFraction.takeFraction_append {front rest : Text} {fraction : Option Text}
    (spells : SpellsFraction front fraction) (noDigit : ∀ c ∈ rest.head?, c.isDigit = false)
    (noPoint : rest.head? ≠ some '.') :
    (takeFraction (front ++ rest)).map (·.1) = fraction ∧
      ((takeFraction (front ++ rest)).map (·.2)).getD (front ++ rest) = rest := by
  cases spells with
  | absent =>
      have none : takeFraction rest = none := by
        cases rest with
        | nil => rfl
        | cons c rest =>
            have other : c ≠ '.' := fun same => noPoint (congrArg some same)
            simp [takeFraction, other]
      rw [List.nil_append, none]
      exact ⟨rfl, rfl⟩
  | @places digits row =>
      obtain ⟨taken, left⟩ := takeWhile_isDigit_append row.all noDigit
      have some : takeFraction ('.' :: (digits ++ rest)) = some (digits, rest) := by
        obtain ⟨first, more, rfl, -⟩ := row.exists_cons
        simp only [takeFraction, taken, left]
      rw [List.cons_append, some]
      exact ⟨rfl, rfl⟩

/-! ### Exponents -/

/-- An exponent is taken off the front, if one stands there. -/
theorem exists_spellsExponent (text : Text) :
    ∃ front, text = front ++ ((takeExponent text).map (·.2)).getD text ∧
      SpellsExponent front ((takeExponent text).map (·.1)) := by
  fun_cases takeExponent text with
  | case1 | case3 | case4 => exact ⟨[], rfl, .absent⟩
  | case2 mark behind letter negative rest cut some =>
      obtain ⟨sign, rfl, signed⟩ : ∃ sign, behind = sign ++ rest ∧ SpellsSign sign negative := by
        split at cut <;> obtain ⟨rfl, rfl⟩ := Prod.mk.inj cut
        · exact ⟨['-'], rfl, .minus⟩
        · exact ⟨['+'], rfl, .plus⟩
        · exact ⟨[], rfl, .absent⟩
      refine ⟨mark :: (sign ++ rest.takeWhile Char.isDigit), ?_, .power letter signed ⟨some, ?_⟩⟩
      · rw [Option.map_some, Option.getD_some, List.cons_append, List.append_assoc,
          List.takeWhile_append_dropWhile]
      · exact fun c mem => List.mem_takeWhile_imp mem

/-- An exponent is taken off what does not go on with it. -/
theorem SpellsExponent.takeExponent_append {front rest : Text} {exponent : Option Int}
    (spells : SpellsExponent front exponent) (breaks : Breaks rest) :
    (takeExponent (front ++ rest)).map (·.1) = exponent ∧
      ((takeExponent (front ++ rest)).map (·.2)).getD (front ++ rest) = rest := by
  cases spells with
  | absent =>
      have none : takeExponent rest = none := by
        cases rest with
        | nil => rfl
        | cons c rest =>
            have small : c ≠ 'e' := fun same => breaks.head?_ne (by decide) (congrArg some same)
            have large : c ≠ 'E' := fun same => breaks.head?_ne (by decide) (congrArg some same)
            simp [takeExponent, small, large]
      rw [List.nil_append, none]
      exact ⟨rfl, rfl⟩
  | @power mark sign digits negative letter signed row =>
      obtain ⟨taken, left⟩ := takeWhile_isDigit_append row.all breaks.not_isDigit
      have some : takeExponent (mark :: (sign ++ (digits ++ rest))) = some
          (if negative then -(Text.numeralValue digits : Int) else Text.numeralValue digits, rest) := by
        obtain ⟨first, more, rfl, isDigit⟩ := row.exists_cons
        have noMinus : first ≠ '-' := ne_of_isDigit isDigit rfl
        have noPlus : first ≠ '+' := ne_of_isDigit isDigit rfl
        rw [List.cons_append] at taken left
        cases signed <;> simp [takeExponent, letter, noMinus, noPlus, taken, left]
      rw [List.cons_append, List.append_assoc, some]
      exact ⟨rfl, rfl⟩

/-- No exponent begins with a digit or a point. -/
theorem SpellsExponent.head?_append {front rest : Text} {exponent : Option Int}
    (spells : SpellsExponent front exponent) (breaks : Breaks rest) :
    (∀ c ∈ (front ++ rest).head?, c.isDigit = false) ∧ (front ++ rest).head? ≠ some '.' := by
  cases spells with
  | absent => exact ⟨breaks.not_isDigit, breaks.head?_ne (by decide)⟩
  | power letter _ _ => rcases letter with rfl | rfl <;> simp

/-- No fraction begins with a digit. -/
theorem SpellsFraction.head?_append {front rest : Text} {fraction : Option Text}
    (spells : SpellsFraction front fraction) (noDigit : ∀ c ∈ rest.head?, c.isDigit = false) :
    ∀ c ∈ (front ++ rest).head?, c.isDigit = false := by
  cases spells with
  | absent => exact noDigit
  | places => simp

/-! ### Whole numbers -/

/-- The number that begins with the digits, given what stands behind them. -/
def numberAfter (negative : Bool) (digits rest : Text) : Except ReadError (Json × Text) :=
  let fraction := takeFraction rest
  let afterFraction := (fraction.map (·.2)).getD rest
  let exponent := takeExponent afterFraction
  let remaining := (exponent.map (·.2)).getD afterFraction
  if fraction.isNone && exponent.isNone then
    match Text.readNumeral digits with
    | .ok size => .ok (integer (if negative then -(size : Int) else size), remaining)
    | .error fault => .error (.tooLong fault)
  else
    let places := (fraction.map (·.1)).getD []
    .ok (decimal ⟨negative, Text.numeralValue (digits ++ places),
      (exponent.map (·.1)).getD 0 - places.length⟩, remaining)

/-- A number begins with a whole row of digits. -/
theorem readNumber_cases (negative : Bool) (text : Text) :
    readNumber negative text = .error .malformed ∨
      ∃ digits rest, text = digits ++ rest ∧ WholeRow digits ∧
        readNumber negative text = numberAfter negative digits rest := by
  rw [readNumber]
  cases taken : text.takeWhile Char.isDigit with
  | nil => exact .inl rfl
  | cons first more =>
      have row := digitRow_takeWhile taken
      have begun : first :: more <+: text := taken ▸ List.takeWhile_prefix _
      refine .inr ⟨_, _, ?_, ?_, rfl⟩
      · split
        · rename_i zero
          rw [zero] at begun
          exact (List.prefix_iff_eq_append.1 ((List.prefix_append ['0'] more).trans begun)).symm
        · exact (List.prefix_iff_eq_append.1 begun).symm
      · split
        · exact ⟨⟨by decide, by simp⟩, fun _ => rfl⟩
        · rename_i other
          exact ⟨row, fun zero => absurd (Option.some.inj zero) other⟩

theorem readNumber_append (negative : Bool) {digits rest : Text} (row : WholeRow digits)
    (noDigit : ∀ c ∈ rest.head?, c.isDigit = false) :
    readNumber negative (digits ++ rest) = numberAfter negative digits rest := by
  obtain ⟨first, more, rfl, -⟩ := row.exists_cons
  have kept : (if first = '0' then ['0'] else first :: more) = first :: more := by
    split
    · rename_i zero
      exact (row.zero (congrArg some zero)).symm
    · rfl
  have taken := (takeWhile_isDigit_append row.all noDigit).1
  simp only [readNumber, taken, kept, List.drop_left]
  rfl

/-- What is read as a number is spelled at the front of the text. -/
theorem follows_readNumber (room : Nat) (negative : Bool) (text : Text) :
    FollowsValue room (signText negative ++ text) (readNumber negative text) := by
  rcases readNumber_cases negative text with refused | ⟨digits, rest, rfl, row, same⟩
  · rw [refused]
    trivial
  · obtain ⟨places, left, fraction⟩ := exists_spellsFraction rest
    obtain ⟨scale, behind, exponent⟩ :=
      exists_spellsExponent (((takeFraction rest).map (·.2)).getD rest)
    rw [same]
    simp only [numberAfter]
    split
    · rename_i unbroken
      simp only [Bool.and_eq_true, Option.isNone_iff_eq_none] at unbroken
      obtain ⟨noFraction, noExponent⟩ := unbroken
      rw [noFraction] at noExponent ⊢
      rw [noExponent]
      by_cases short : IsShort digits
      · rw [Text.readNumeral_of_length_le short]
        exact ⟨_, (List.append_assoc ..).symm, .integer negative row short⟩
      · have long := Text.readNumeral_error_iff.2 ⟨Nat.lt_of_not_le short, rfl⟩
        rw [long]
        have within : digits <:+: signText negative ++ (digits ++ rest) := List.infix_append' ..
        exact ⟨digits, row, within, short, rfl⟩
    · rename_i broken
      have broken : ((takeFraction rest).map (·.1)).isSome = true ∨
          ((takeExponent (((takeFraction rest).map (·.2)).getD rest)).map (·.1)).isSome = true := by
        simpa [Option.isSome_iff_ne_none, imp_iff_not_or] using broken
      refine ⟨_, ?_, .decimal negative row fraction exponent broken⟩
      rw [List.nil_append, List.append_assoc, List.append_assoc, List.append_assoc, ← behind, ← left]

section

variable {digits rest : Text}

/-- An integer is read, unless it has too many digits. -/
theorem gains_integer {terms : Terms} (less : Prop) (negative : Bool) (row : WholeRow digits)
    (fit : terms.integer digits) (breaks : Breaks rest) :
    Gains terms less (readNumber negative (digits ++ rest))
      (integer (if negative then -(Text.numeralValue digits : Int)
        else Text.numeralValue digits), rest) := by
  obtain ⟨noFraction, -⟩ := SpellsFraction.absent.takeFraction_append breaks.not_isDigit
    (breaks.head?_ne (c := '.') (by decide))
  obtain ⟨noExponent, -⟩ := SpellsExponent.absent.takeExponent_append breaks
  rw [List.nil_append, Option.map_eq_none_iff] at noFraction noExponent
  rw [readNumber_append negative row breaks.not_isDigit]
  simp only [numberAfter, noFraction, noExponent, Option.map_none, Option.getD_none,
    Option.isNone_none, Bool.and_self, if_true]
  by_cases short : IsShort digits
  · rw [Text.readNumeral_of_length_le short]
    exact .inl rfl
  · rw [Text.readNumeral_error_iff.2 ⟨Nat.lt_of_not_le short, rfl⟩]
    exact .inr ⟨_, .tooLong fit short _, rfl⟩

/-- A number with a fraction or an exponent is read. -/
theorem readNumber_decimal_append (negative : Bool) {places scale : Text} {fraction : Option Text}
    {exponent : Option Int} (row : WholeRow digits) (spelled : SpellsFraction places fraction)
    (scaled : SpellsExponent scale exponent)
    (broken : fraction.isSome = true ∨ exponent.isSome = true) (breaks : Breaks rest) :
    readNumber negative (digits ++ (places ++ (scale ++ rest))) =
      .ok (decimal ⟨negative, Text.numeralValue (digits ++ fraction.getD []),
        exponent.getD 0 - (fraction.getD []).length⟩, rest) := by
  obtain ⟨noDigit, noPoint⟩ := scaled.head?_append breaks
  obtain ⟨taken, left⟩ := spelled.takeFraction_append noDigit noPoint
  obtain ⟨takenScale, leftScale⟩ := scaled.takeExponent_append breaks
  rw [readNumber_append negative row (spelled.head?_append noDigit)]
  simp only [numberAfter, left, taken, takenScale, leftScale]
  rw [if_neg]
  intro both
  rw [Bool.and_eq_true, Option.isNone_iff_eq_none, Option.isNone_iff_eq_none] at both
  rw [both.1, Option.map_none] at taken
  rw [both.2, Option.map_none] at takenScale
  rw [← taken, ← takenScale] at broken
  simp at broken

end

/-! ## Words -/

theorem findSome?_fixedWords_of_isDigit {first : Char} (isDigit : first.isDigit = true)
    (more : Text) :
    (fixedWords.findSome? fun (word, value) =>
        (Text.after? word (first :: more)).map (value, ·)) = none ∧
      (fixedWords.findSome? fun (word, value) =>
        (Text.after? word ('-' :: first :: more)).map (value, ·)) = none := by
  have letters : ∀ c ∈ ['n', 't', 'f', 'N', 'I', '-'], c.isDigit = false := by simp
  have other (c : Char) (letter : c ∈ ['n', 't', 'f', 'N', 'I', '-']) : c ≠ first :=
    (ne_of_isDigit isDigit (letters c letter)).symm
  simp only [List.mem_cons, List.not_mem_nil, or_false, forall_eq_or_imp, forall_eq] at other
  simp [fixedWords, Text.after?, other]

/-- Digits are read as a number, with the sign before them. -/
theorem readScalar_signText_append (negative : Bool) {digits : Text} (row : DigitRow digits)
    (rest : Text) :
    readScalar (signText negative ++ (digits ++ rest)) = readNumber negative (digits ++ rest) := by
  obtain ⟨first, more, rfl, isDigit⟩ := row.exists_cons
  obtain ⟨plain, signed⟩ := findSome?_fixedWords_of_isDigit isDigit (more ++ rest)
  have noMinus : first ≠ '-' := ne_of_isDigit isDigit rfl
  cases negative with
  | true => simp only [signText, if_true, List.cons_append, List.nil_append, readScalar, signed]
  | false =>
      simp only [signText, Bool.false_eq_true, if_false, List.cons_append, List.nil_append,
        readScalar, plain]
      split
      · rename_i same
        exact absurd (List.cons.inj same).1 noMinus
      · rfl

theorem readScalar_word_append {word : Text} {value : Json} (listed : (word, value) ∈ fixedWords)
    (rest : Text) : readScalar (word ++ rest) = .ok (value, rest) := by
  simp only [fixedWords, List.mem_cons, List.not_mem_nil, or_false, Prod.mk.injEq] at listed
  rcases listed with ⟨rfl, rfl⟩ | ⟨rfl, rfl⟩ | ⟨rfl, rfl⟩ | ⟨rfl, rfl⟩ | ⟨rfl, rfl⟩ | ⟨rfl, rfl⟩ <;> rfl

/-- What is read as a word or a number is spelled at the front of the text. -/
theorem follows_readScalar (room : Nat) (text : Text) :
    FollowsValue room text (readScalar text) := by
  unfold readScalar
  cases found : fixedWords.findSome? fun (word, value) => (Text.after? word text).map (value, ·) with
  | some taken =>
      obtain ⟨⟨word, value⟩, listed, taken⟩ := List.exists_of_findSome?_eq_some found
      obtain ⟨rest, begun, rfl⟩ := Option.map_eq_some_iff.1 taken
      exact ⟨word, Text.after?_eq_some_iff.1 begun, .word listed⟩
  | none =>
      simp only
      split
      · exact follows_readNumber room true _
      · exact follows_readNumber room false text

end PatchSurvey.Json
