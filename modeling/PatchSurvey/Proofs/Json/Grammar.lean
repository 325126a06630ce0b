import PatchSurvey.Json.Reader

/-! # The grammar of JSON

Which texts spell which values, said without the reader. How many digits an integer may have,
whether a half of a pair may stand in a string, and how deep arrays and objects may lie is left
open: JSON itself sets no bound, a reader does. Of a repeated key the last value counts, and the
three numbers beyond JSON have their words. -/

namespace PatchSurvey.Json

/-- White space and nothing else. -/
def Spaces (text : Text) : Prop :=
  ∀ c ∈ text, isSpace c = true

/-! ## What a reader takes -/

/-- The digits of an integer that is read. -/
def IsShort (digits : Text) : Prop :=
  digits.length ≤ numeralLimit

/-- What is taken of integers and strings: the digits of an integer, and the text that the pieces of
a string stand for. Pieces that can be joined stand for nothing but the joined text. -/
structure Terms where
  integer : Text → Prop
  string : List Piece → Text → Prop
  joined {pieces : List Piece} {text whole : Text} (stands : string pieces text)
    (joins : joinPieces pieces = some whole) : text = whole

/-- JSON itself takes integers of any length, and a string with a half of a pair for some text. -/
def Terms.any : Terms where
  integer _ := True
  string pieces text := ∀ whole ∈ joinPieces pieces, text = whole
  joined stands joins := stands _ joins

/-- The reader takes integers that are not too long, and strings without a half of a pair. -/
def Terms.read : Terms where
  integer := IsShort
  string pieces text := joinPieces pieces = some text
  joined stands joins := Option.some.inj (stands.symm.trans joins)

/-! ## Strings -/

/-- The text is a piece of a string. -/
inductive SpellsPiece : Text → Piece → Prop
  | plain {c : Char} (visible : ¬ c.toNat < 0x20) (noQuote : c ≠ '"') (noMark : c ≠ '\\') :
      SpellsPiece [c] (.char c)
  | short {e c : Char} (escape : shortEscape? e = some c) : SpellsPiece ['\\', e] (.char c)
  | unit {a b c d : Char} {value : Nat} (digits : unitValue? a b c d = some value) :
      SpellsPiece ['\\', 'u', a, b, c, d] (.unit value)

/-- The text is the pieces one after the other. -/
inductive SpellsPieces : Text → List Piece → Prop
  | nil : SpellsPieces [] []
  | cons {text more : Text} {piece : Piece} {pieces : List Piece} (first : SpellsPiece text piece)
      (others : SpellsPieces more pieces) : SpellsPieces (text ++ more) (piece :: pieces)

/-- The text is a string between quotes. -/
inductive SpellsString (terms : Terms) : Text → Text → Prop
  | quoted {body value : Text} {pieces : List Piece} (inner : SpellsPieces body pieces)
      (stands : terms.string pieces value) : SpellsString terms ('"' :: (body ++ ['"'])) value

/-! ## Numbers -/

/-- A row of digits. -/
structure DigitRow (digits : Text) : Prop where
  some : digits ≠ []
  all : ∀ c ∈ digits, c.isDigit = true

/-- A row of digits in which no zero stands before others. -/
structure WholeRow (digits : Text) : Prop extends DigitRow digits where
  zero : digits.head? = Option.some '0' → digits = ['0']

/-- The text is a fraction, or empty. -/
inductive SpellsFraction : Text → Option Text → Prop
  | absent : SpellsFraction [] none
  | places {digits : Text} (row : DigitRow digits) : SpellsFraction ('.' :: digits) (some digits)

/-- The text is the sign of an exponent, or empty. -/
inductive SpellsSign : Text → Bool → Prop
  | absent : SpellsSign [] false
  | plus : SpellsSign ['+'] false
  | minus : SpellsSign ['-'] true

/-- The text is an exponent, or empty. -/
inductive SpellsExponent : Text → Option Int → Prop
  | absent : SpellsExponent [] none
  | power {mark : Char} {sign digits : Text} {negative : Bool} (letter : mark = 'e' ∨ mark = 'E')
      (signed : SpellsSign sign negative) (row : DigitRow digits) :
      SpellsExponent (mark :: (sign ++ digits))
        (some (if negative then -(Text.numeralValue digits : Int) else Text.numeralValue digits))

/-- A minus sign, or nothing. -/
def signText (negative : Bool) : Text :=
  if negative then ['-'] else []

/-! ## Values -/

/-- What a text can spell: a value, the items between two brackets, or the members between two
braces. -/
inductive Part where
  | value (value : Json)
  | items (items : List Json)
  | members (members : List (Text × Json))

/-- The text spells the part, in which no more arrays and objects lie one in the other than there is
room for. -/
inductive Spells (terms : Terms) : Nat → Text → Part → Prop
  | word {room : Nat} {word : Text} {value : Json} (listed : (word, value) ∈ fixedWords) :
      Spells terms room word (.value value)
  | integer {room : Nat} (negative : Bool) {digits : Text} (row : WholeRow digits)
      (fit : terms.integer digits) :
      Spells terms room (signText negative ++ digits) (.value (integer
        (if negative then -(Text.numeralValue digits : Int) else Text.numeralValue digits)))
  | decimal {room : Nat} (negative : Bool) {digits fractionText exponentText : Text}
      {fraction : Option Text} {exponent : Option Int} (row : WholeRow digits)
      (places : SpellsFraction fractionText fraction)
      (scale : SpellsExponent exponentText exponent)
      (broken : fraction.isSome = true ∨ exponent.isSome = true) :
      Spells terms room (signText negative ++ (digits ++ (fractionText ++ exponentText)))
        (.value (decimal ⟨negative, Text.numeralValue (digits ++ fraction.getD []),
          exponent.getD 0 - (fraction.getD []).length⟩))
  | string {room : Nat} {text value : Text} (quoted : SpellsString terms text value) :
      Spells terms room text (.value (string value))
  | noItems {room : Nat} {gap : Text} (spaces : Spaces gap) :
      Spells terms (room + 1) ('[' :: (gap ++ [']'])) (.value (array []))
  | array {room : Nat} {text : Text} {items : List Json}
      (inner : Spells terms room text (.items items)) :
      Spells terms (room + 1) ('[' :: (text ++ [']'])) (.value (array items))
  | noMembers {room : Nat} {gap : Text} (spaces : Spaces gap) :
      Spells terms (room + 1) ('{' :: (gap ++ ['}'])) (.value (object []))
  | object {room : Nat} {text : Text} {members : List (Text × Json)}
      (inner : Spells terms room text (.members members)) :
      Spells terms (room + 1) ('{' :: (text ++ ['}']))
        (.value (object (Dictionary.ofPairs members)))
  | lastItem {room : Nat} {before text after : Text} {item : Json} (left : Spaces before)
      (right : Spaces after) (first : Spells terms room text (.value item)) :
      Spells terms room (before ++ (text ++ after)) (.items [item])
  | nextItem {room : Nat} {before text after more : Text} {item : Json} {items : List Json}
      (left : Spaces before) (right : Spaces after) (first : Spells terms room text (.value item))
      (others : Spells terms room more (.items items)) :
      Spells terms room (before ++ (text ++ (after ++ ',' :: more))) (.items (item :: items))
  | lastMember {room : Nat} {before keyText gap between text after key : Text} {value : Json}
      (left : Spaces before) (quoted : SpellsString terms keyText key) (spaces : Spaces gap)
      (inner : Spaces between) (right : Spaces after)
      (first : Spells terms room text (.value value)) :
      Spells terms room (before ++ (keyText ++ (gap ++ ':' :: (between ++ (text ++ after)))))
        (.members [(key, value)])
  | nextMember {room : Nat} {before keyText gap between text after more key : Text} {value : Json}
      {members : List (Text × Json)} (left : Spaces before)
      (quoted : SpellsString terms keyText key) (spaces : Spaces gap) (inner : Spaces between)
      (right : Spaces after) (first : Spells terms room text (.value value))
      (others : Spells terms room more (.members members)) :
      Spells terms room
        (before ++ (keyText ++ (gap ++ ':' :: (between ++ (text ++ (after ++ ',' :: more))))))
        (.members ((key, value) :: members))

/-- The text is the value with white space around it. -/
inductive Denotes (terms : Terms) (room : Nat) : Text → Json → Prop
  | whole {before text after : Text} {value : Json} (left : Spaces before) (right : Spaces after)
      (inner : Spells terms room text (.value value)) :
      Denotes terms room (before ++ (text ++ after)) value

/-! ## Texts that go too deep -/

/-- The kinds of parts. -/
inductive PartKind where
  | value
  | items
  | members

/-- The text begins with a part in which an array or object is opened for which there is no room
left. Up to there it is spelled by the grammar, and what follows is not looked at. -/
inductive Overflows (terms : Terms) : Nat → PartKind → Text → Prop
  | opened {mark : Char} (opener : mark = '[' ∨ mark = '{') (rest : Text) :
      Overflows terms 0 .value (mark :: rest)
  | array {room : Nat} {text : Text} (inner : Overflows terms room .items text) :
      Overflows terms (room + 1) .value ('[' :: text)
  | object {room : Nat} {text : Text} (inner : Overflows terms room .members text) :
      Overflows terms (room + 1) .value ('{' :: text)
  | item {room : Nat} {before text : Text} (left : Spaces before)
      (deep : Overflows terms room .value text) : Overflows terms room .items (before ++ text)
  | laterItem {room : Nat} {before text after more : Text} {item : Json} (left : Spaces before)
      (right : Spaces after) (first : Spells terms room text (.value item))
      (others : Overflows terms room .items more) :
      Overflows terms room .items (before ++ (text ++ (after ++ ',' :: more)))
  | member {room : Nat} {before keyText gap between text key : Text} (left : Spaces before)
      (quoted : SpellsString terms keyText key) (spaces : Spaces gap) (inner : Spaces between)
      (deep : Overflows terms room .value text) :
      Overflows terms room .members (before ++ (keyText ++ (gap ++ ':' :: (between ++ text))))
  | laterMember {room : Nat} {before keyText gap between text after more key : Text} {value : Json}
      (left : Spaces before) (quoted : SpellsString terms keyText key) (spaces : Spaces gap)
      (inner : Spaces between) (right : Spaces after)
      (first : Spells terms room text (.value value))
      (others : Overflows terms room .members more) :
      Overflows terms room .members
        (before ++ (keyText ++ (gap ++ ':' :: (between ++ (text ++ (after ++ ',' :: more))))))

/-- Behind white space, more arrays and objects are opened one in the other than allowed. -/
def GoesTooDeep (limit : Nat) (text : Text) : Prop :=
  ∃ before rest, Spaces before ∧ text = before ++ rest ∧ Overflows .read limit .value rest

end PatchSurvey.Json
