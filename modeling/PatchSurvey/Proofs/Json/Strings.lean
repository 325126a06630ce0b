import Mathlib.Data.Bool.AllAny
import PatchSurvey.Json.Writer
import PatchSurvey.Proofs.Json.Grammar

/-! # Strings that are written

Every character of a string is written as one piece, as itself or by an escape, and
the pieces are joined to the string again. -/

namespace PatchSurvey.Json

/-- The piece that a written character spells. -/
def pieceOf (c : Char) : Piece :=
  if c.toNat < 0x20 ∧ c.toNat ∉ [0x08, 0x09, 0x0A, 0x0C, 0x0D] then .unit c.toNat else .char c

theorem joinPieces_cons_pieceOf (c : Char) (rest : List Piece) :
    joinPieces (pieceOf c :: rest) = (joinPieces rest).map (c :: ·) := by
  rw [pieceOf]
  split
  · rename_i control
    -- a control character is no half of a pair, whatever follows it
    have alone : joinPieces.unitChar? c.toNat = some c := by
      rw [joinPieces.unitChar?, if_neg (by omega), Char.ofNat_toNat]
    cases rest with
    | nil => simp only [joinPieces, alone, Option.bind_some]
    | cons next rest =>
        cases next with
        | char d => simp only [joinPieces, alone, Option.bind_some]
        | unit low => rw [joinPieces, if_neg (by omega), alone, Option.bind_some]
  · rw [joinPieces]

/-- The pieces of a text are joined to the text. -/
theorem joinPieces_map_pieceOf (text : Text) : joinPieces (text.map pieceOf) = some text := by
  induction text with
  | nil => rfl
  | cons c text ih => rw [List.map_cons, joinPieces_cons_pieceOf, ih, Option.map_some]

/-- A control character is read from its four digits. -/
theorem exists_hexDigits_eq {n : Nat} (small : n < 0x20) :
    ∃ a b c d, Text.hexDigits 4 n = [a, b, c, d] ∧ unitValue? a b c d = some n := by
  have all : ∀ n < 0x20, unitValue? (Nat.digitChar (n / 4096 % 16)) (Nat.digitChar (n / 256 % 16))
      (Nat.digitChar (n / 16 % 16)) (Nat.digitChar (n % 16)) = some n := by decide
  refine ⟨_, _, _, _, ?_, all n small⟩
  simp [Text.hexDigits, Nat.div_div_eq_div_mul]

/-- The control characters with a letter of their own. -/
def lettered : List Char :=
  [0x08, 0x09, 0x0A, 0x0C, 0x0D].map Char.ofNat

theorem mem_lettered_iff {c : Char} : c ∈ lettered ↔ c.toNat ∈ [0x08, 0x09, 0x0A, 0x0C, 0x0D] := by
  constructor
  · have all : ∀ c ∈ lettered, c.toNat ∈ [0x08, 0x09, 0x0A, 0x0C, 0x0D] :=
      List.forall_mem_map.2 (by decide)
    exact all c
  · intro mem
    rw [← Char.ofNat_toNat c]
    exact List.mem_map_of_mem mem

/-- Quotes, backslashes and lettered characters have a short escape. -/
theorem exists_escape_eq_of_short {c : Char} (short : c ∈ '"' :: '\\' :: lettered) :
    ∃ e, escape c = ['\\', e] ∧ shortEscape? e = some c ∧ pieceOf c = .char c := by
  have all : ∀ c ∈ '"' :: '\\' :: lettered, (escape c).head? = some '\\' ∧
      (escape c).tail.tail = [] ∧ (escape c).tail.head?.bind shortEscape? = some c ∧
      pieceOf c = .char c :=
    List.all_iff_forall_prop.1 (by decide)
  obtain ⟨first, last, read, piece⟩ := all c short
  obtain ⟨rest, whole⟩ := List.head?_eq_some_iff.1 first
  rw [whole] at last read
  cases rest with
  | nil => cases read
  | cons e rest =>
      obtain rfl : rest = [] := last
      exact ⟨e, whole, read, piece⟩

/-- A written character spells its piece. -/
theorem spellsPiece_escape (c : Char) : SpellsPiece (escape c) (pieceOf c) := by
  by_cases short : c ∈ '"' :: '\\' :: lettered
  · obtain ⟨e, written, read, piece⟩ := exists_escape_eq_of_short short
    rw [written, piece]
    exact .short read
  · simp only [List.mem_cons, not_or, mem_lettered_iff] at short
    obtain ⟨noQuote, noMark, unlettered⟩ := short
    have other : ¬ (c = '"' ∨ c = '\\') := by simp [noQuote, noMark]
    obtain ⟨h₁, h₂, h₃, h₄, h₅, -⟩ := unlettered
    by_cases control : c.toNat < 0x20
    · obtain ⟨a, b, d, e, digits, value⟩ := exists_hexDigits_eq control
      have written : escape c = ['\\', 'u', a, b, d, e] := by
        rw [escape, if_neg other, if_neg h₁, if_neg h₂, if_neg h₃, if_neg h₄, if_neg h₅,
          if_pos control, digits]
      have piece : pieceOf c = .unit c.toNat := by
        rw [pieceOf, if_pos ⟨control, by simp [h₁, h₂, h₃, h₄, h₅]⟩]
      rw [written, piece]
      exact .unit value
    · have written : escape c = [c] := by
        rw [escape, if_neg other, if_neg h₁, if_neg h₂, if_neg h₃, if_neg h₄, if_neg h₅,
          if_neg control]
      have piece : pieceOf c = .char c := by
        rw [pieceOf, if_neg fun both => control both.1]
      rw [written, piece]
      exact .plain control noQuote noMark

theorem spellsPieces_flatMap_escape (text : Text) :
    SpellsPieces (text.flatMap escape) (text.map pieceOf) := by
  induction text with
  | nil => exact .nil
  | cons c text ih => exact .cons (spellsPiece_escape c) ih

/-- A written string spells the string. -/
theorem spellsString_writeString (text : Text) : SpellsString .read (writeString text) text :=
  .quoted (spellsPieces_flatMap_escape text) (joinPieces_map_pieceOf text)

end PatchSurvey.Json
