import PatchSurvey.Proofs.Json.Reading
import PatchSurvey.Proofs.Json.Strings

/-! # Values that are written and read

A value whose integers are not too long and whose keys are distinct is written as a text of
the grammar, at every indentation, and so it is read as it was written, if it does not lie
deeper than the limit. -/

namespace PatchSurvey.Json

/-- A value that can be read again: no integer has too many digits, no object has a key twice, and
there is room for the arrays and objects that lie one in the other. -/
inductive Legible : Nat → Json → Prop
  | null {room : Nat} : Legible room null
  | bool {room : Nat} (value : Bool) : Legible room (bool value)
  | integer {room : Nat} (value : Int) (short : (Text.ofNat value.natAbs).length ≤ numeralLimit) :
      Legible room (integer value)
  | decimal {room : Nat} (value : Decimal) : Legible room (decimal value)
  | infinite {room : Nat} (negative : Bool) : Legible room (infinite negative)
  | notANumber {room : Nat} : Legible room notANumber
  | string {room : Nat} (value : Text) : Legible room (string value)
  | array {room : Nat} (items : List Json) (legible : ∀ item ∈ items, Legible room item) :
      Legible (room + 1) (array items)
  | object {room : Nat} (members : List (Text × Json)) (distinct : (members.map (·.1)).Nodup)
      (legible : ∀ member ∈ members, Legible room member.2) : Legible (room + 1) (object members)

variable {indent : Option Nat} {room : Nat}

/-! ## Layout -/

theorem spaces_lineBreak (indent : Option Nat) (depth : Nat) : Spaces (lineBreak indent depth) := by
  intro c mem
  cases indent with
  | none => cases mem
  | some width =>
      obtain rfl | mem := List.mem_cons.1 mem
      · rfl
      · rw [List.eq_of_mem_replicate mem]
        rfl

/-- A key mark is a colon with nothing but white space behind it. -/
theorem exists_keyMark_eq (indent : Option Nat) :
    ∃ between, Spaces between ∧ keyMark indent = ':' :: between := by
  cases indent with
  | none => exact ⟨[], spaces_nil, rfl⟩
  | some width => exact ⟨[' '], spaces_blank, rfl⟩

/-! ## Numbers -/

theorem wholeRow_ofNat (n : Nat) : WholeRow (Text.ofNat n) where
  some := Text.ofNat_ne_nil n
  all _ mem := Text.isDigit_of_mem_digits mem
  zero head := by
    rw [Text.eq_zero_of_head?_ofNat head]
    rfl

theorem spells_ofInt {n : Int} (short : IsShort (Text.ofNat n.natAbs)) :
    Spells .read room (Text.ofInt n) (.value (integer n)) := by
  cases n with
  | ofNat n =>
      have spells : Spells .read room _ _ := .integer false (wholeRow_ofNat n) short
      rw [Text.numeralValue_ofNat] at spells
      exact spells
  | negSucc n =>
      have spells : Spells .read room _ _ := .integer true (wholeRow_ofNat (n + 1)) short
      rw [Text.numeralValue_ofNat] at spells
      exact spells

theorem spellsExponent_ofInt (n : Int) : SpellsExponent ('e' :: Text.ofInt n) (some n) := by
  cases n with
  | ofNat n =>
      have spells := SpellsExponent.power (.inl rfl) .absent (wholeRow_ofNat n).toDigitRow
      rw [Text.numeralValue_ofNat] at spells
      exact spells
  | negSucc n =>
      have spells := SpellsExponent.power (.inl rfl) .minus (wholeRow_ofNat (n + 1)).toDigitRow
      rw [Text.numeralValue_ofNat] at spells
      exact spells

theorem spells_writeDecimal (value : Decimal) :
    Spells .read room (writeDecimal value) (.value (decimal value)) := by
  obtain ⟨negative, n, exponent⟩ := value
  have spells : Spells .read room _ _ := .decimal negative (wholeRow_ofNat n) .absent
    (spellsExponent_ofInt exponent) (.inr rfl)
  simpa [writeDecimal, signText, Text.numeralValue_ofNat] using spells

/-! ## Items and members -/

/-- Items are written one after the other up to the line break before the closing bracket. -/
theorem spells_writeItems {depth : Nat} (outer : Nat) {item : Json} {items : List Json}
    (spells : ∀ next ∈ item :: items, Spells .read room (writeAt indent depth next) (.value next)) :
    Spells .read room (lineBreak indent depth ++ (writeAt indent depth item ++
      (writeItems indent depth items ++ lineBreak indent outer))) (.items (item :: items)) := by
  have left := spaces_lineBreak indent depth
  induction items generalizing item with
  | nil =>
      exact .lastItem left (spaces_lineBreak indent outer) (spells item List.mem_cons_self)
  | cons next items ih =>
      obtain ⟨first, others⟩ := List.forall_mem_cons.1 spells
      have spelled := Spells.nextItem left spaces_nil first (ih others)
      simpa [writeItems] using spelled

/-- Members are written one after the other up to the line break before the closing brace. -/
theorem spells_writeMembers {depth : Nat} (outer : Nat) {key : Text} {value : Json}
    {members : List (Text × Json)}
    (spells : ∀ next ∈ (key, value) :: members,
      Spells .read room (writeAt indent depth next.2) (.value next.2)) :
    Spells .read room (lineBreak indent depth ++ (writeString key ++ (keyMark indent ++
      (writeAt indent depth value ++ (writeMembers indent depth members ++
        lineBreak indent outer))))) (.members ((key, value) :: members)) := by
  have left := spaces_lineBreak indent depth
  obtain ⟨between, inner, mark⟩ := exists_keyMark_eq indent
  induction members generalizing key value with
  | nil =>
      have spelled := Spells.lastMember left (spellsString_writeString key) spaces_nil inner
        (spaces_lineBreak indent outer) (spells (key, value) List.mem_cons_self)
      simpa [writeMembers, mark] using spelled
  | cons next members ih =>
      obtain ⟨nextKey, nextValue⟩ := next
      obtain ⟨first, others⟩ := List.forall_mem_cons.1 spells
      have spelled := Spells.nextMember left (spellsString_writeString key) spaces_nil inner
        spaces_nil first (ih others)
      simpa [writeMembers, mark] using spelled

/-! ## Values -/

/-- A legible value is written as a text of the grammar, at every depth. -/
theorem Legible.spells_writeAt {value : Json} (legible : Legible room value) (depth : Nat) :
    Spells .read room (writeAt indent depth value) (.value value) := by
  induction legible generalizing depth with
  | null => exact .word (by simp [fixedWords, writeAt])
  | bool value => cases value <;> exact .word (by simp [fixedWords, writeAt])
  | integer value short => exact spells_ofInt short
  | decimal value => exact spells_writeDecimal value
  | infinite negative => cases negative <;> exact .word (by simp [fixedWords, writeAt])
  | notANumber => exact .word (by simp [fixedWords, writeAt])
  | string value => exact .string (spellsString_writeString value)
  | array items _ spells =>
      cases items with
      | nil => exact .noItems spaces_nil
      | cons item items =>
          have inner := spells_writeItems depth fun next mem => spells next mem (depth + 1)
          simpa [writeAt] using Spells.array inner
  | object members distinct _ spells =>
      cases members with
      | nil => exact .noMembers spaces_nil
      | cons member members =>
          obtain ⟨key, value⟩ := member
          have inner := spells_writeMembers depth fun next mem => spells next mem (depth + 1)
          have whole := Spells.object inner
          rw [Dictionary.ofPairs_eq_self distinct] at whole
          simpa [writeAt] using whole

/-- A legible value is read from its text, at every indentation and with every limit that leaves
room for it. -/
theorem read_write {value : Json} (legible : Legible room value) (indent : Option Nat) {limit : Nat}
    (enough : room ≤ limit) : read limit (write indent value) = .ok value := by
  have spells : Spells .read room (write indent value) (.value value) := legible.spells_writeAt 0
  have denotes := Denotes.whole spaces_nil spaces_nil spells
  rw [List.nil_append, List.append_nil] at denotes
  exact (denotes.gains_read limit).eq_ok (Nat.not_lt.2 enough)

end PatchSurvey.Json
