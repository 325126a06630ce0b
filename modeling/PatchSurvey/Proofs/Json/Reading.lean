import PatchSurvey.Proofs.Json.Scalars

/-! # Texts that are read

The reader takes exactly the texts of the grammar that keep to its terms and its limit, with the
values that they spell. Any other text of the grammar is refused for an integer that is too long,
for a half of a pair, or for going too deep. -/

namespace PatchSurvey.Json

/-! ## White space -/

theorem exists_spaces_append_skip (text : Text) :
    ∃ before, Spaces before ∧ text = before ++ skip text :=
  ⟨text.takeWhile isSpace, fun _ mem => List.mem_takeWhile_imp mem,
    List.takeWhile_append_dropWhile.symm⟩

theorem Spaces.skip_append {before : Text} (white : Spaces before) (text : Text) :
    skip (before ++ text) = skip text :=
  List.dropWhile_append_of_pos white

theorem Spaces.append {before after : Text} (left : Spaces before) (right : Spaces after) :
    Spaces (before ++ after) :=
  List.forall_mem_append.2 ⟨left, right⟩

theorem spaces_nil : Spaces [] :=
  List.forall_mem_nil _

theorem spaces_blank : Spaces [' '] :=
  List.forall_mem_singleton.2 rfl

/-- Nothing is passed over before a character that is no white space. -/
theorem skip_append_cons {before : Text} (white : Spaces before) {c : Char}
    (visible : isSpace c = false) (rest : Text) : skip (before ++ c :: rest) = c :: rest := by
  rw [white.skip_append]
  exact List.dropWhile_cons_of_neg (by simp [visible])

/-- A mark stands behind white space, and white space behind it. -/
theorem exists_eq_of_skip_eq_cons {rest behind : Text} {c : Char} (next : skip rest = c :: behind) :
    ∃ gap between, Spaces gap ∧ Spaces between ∧ rest = gap ++ c :: (between ++ skip behind) := by
  obtain ⟨gap, white, cut⟩ := exists_spaces_append_skip rest
  obtain ⟨between, inner, cutBehind⟩ := exists_spaces_append_skip behind
  refine ⟨gap, between, white, inner, ?_⟩
  rw [← cutBehind, ← next]
  exact cut

variable {terms : Terms} {room : Nat} {text rest : Text}

/-! ## What is read is spelled -/

/-- White space may stand before items and members. -/
theorem Spells.spaces_append {part : Part} (spells : Spells terms room text part) {before : Text}
    (white : Spaces before) (other : ∀ value, part ≠ .value value) :
    Spells terms room (before ++ text) part := by
  cases spells with
  | lastItem left right first =>
      rw [← List.append_assoc]
      exact .lastItem (white.append left) right first
  | nextItem left right first others =>
      rw [← List.append_assoc]
      exact .nextItem (white.append left) right first others
  | lastMember left quoted spaces inner right first =>
      rw [← List.append_assoc]
      exact .lastMember (white.append left) quoted spaces inner right first
  | nextMember left quoted spaces inner right first others =>
      rw [← List.append_assoc]
      exact .nextMember (white.append left) quoted spaces inner right first others
  | _ => exact absurd rfl (other _)

theorem Overflows.spaces_append {kind : PartKind} (deep : Overflows terms room kind text)
    {before : Text} (white : Spaces before) (other : kind ≠ .value) :
    Overflows terms room kind (before ++ text) := by
  cases deep with
  | item left deep =>
      rw [← List.append_assoc]
      exact .item (white.append left) deep
  | laterItem left right first others =>
      rw [← List.append_assoc]
      exact .laterItem (white.append left) right first others
  | member left quoted spaces inner deep =>
      rw [← List.append_assoc]
      exact .member (white.append left) quoted spaces inner deep
  | laterMember left quoted spaces inner right first others =>
      rw [← List.append_assoc]
      exact .laterMember (white.append left) quoted spaces inner right first others
  | _ => exact absurd rfl other

/-- What is read as the items of an array. -/
abbrev FollowsItems (room : Nat) (text : Text) : Except ReadError (List Json × Text) → Prop :=
  Follows (fun front items => Spells .read room front (.items items))
    (Overflows .read room .items) [']'] text

/-- What is read as the members of an object. -/
abbrev FollowsMembers (room : Nat) (text : Text) :
    Except ReadError (List (Text × Json) × Text) → Prop :=
  Follows (fun front members => Spells .read room front (.members members))
    (Overflows .read room .members) ['}'] text

section

variable {fuel : Nat} (values : ∀ text, FollowsValue room text (readValue fuel room text))
include values

theorem follows_readItems (items : ∀ text, FollowsItems room text (readItems fuel room text))
    (text : Text) : FollowsItems room text (readItems (fuel + 1) room text) := by
  rw [readItems]
  refine (values text).bind List.infix_rfl (.item spaces_nil) fun item rest front whole first => ?_
  obtain rfl : text = front ++ rest := whole
  dsimp only
  split
  · rename_i behind close
    obtain ⟨gap, white, cut⟩ := exists_spaces_append_skip rest
    rw [close] at cut
    exact ⟨front ++ gap, by simp [cut], .lastItem spaces_nil white first⟩
  · rename_i behind comma
    obtain ⟨gap, between, white, inner, rfl⟩ := exists_eq_of_skip_eq_cons comma
    have within : skip behind <:+: front ++ (gap ++ ',' :: (between ++ skip behind)) :=
      ⟨front ++ (gap ++ ',' :: between), [], by simp⟩
    have deeper (deep : Overflows .read room .items (skip behind)) :
        Overflows .read room .items (front ++ (gap ++ ',' :: (between ++ skip behind))) :=
      .laterItem spaces_nil white first (deep.spaces_append inner (by simp))
    refine (items (skip behind)).bind within deeper fun more rest tail whole others => ?_
    refine ⟨front ++ (gap ++ ',' :: (between ++ tail)), by simp [whole], ?_⟩
    exact .nextItem spaces_nil white first (others.spaces_append inner (by simp))
  · trivial

theorem follows_readMembers
    (members : ∀ text, FollowsMembers room text (readMembers fuel room text)) (text : Text) :
    FollowsMembers room text (readMembers (fuel + 1) room text) := by
  unfold readMembers
  split
  · rename_i quoted
    refine (follows_readString _ quoted).bind List.infix_rfl id
      fun key rest front whole spelled => ?_
    rw [whole, List.nil_append]
    dsimp only
    split
    · rename_i behind colon
      obtain ⟨gap, between, white, inner, rfl⟩ := exists_eq_of_skip_eq_cons colon
      have within : skip behind <:+: front ++ (gap ++ ':' :: (between ++ skip behind)) :=
        ⟨front ++ (gap ++ ':' :: between), [], by simp⟩
      have deeper (deep : Overflows .read room .value (skip behind)) :
          Overflows .read room .members (front ++ (gap ++ ':' :: (between ++ skip behind))) :=
        .member spaces_nil spelled white inner deep
      refine (values (skip behind)).bind within deeper fun value rest middle whole first => ?_
      rw [whole, List.nil_append]
      dsimp only
      split
      · rename_i later close
        obtain ⟨after, right, cut⟩ := exists_spaces_append_skip rest
        rw [close] at cut
        exact ⟨front ++ (gap ++ ':' :: (between ++ (middle ++ after))), by simp [cut],
          .lastMember spaces_nil spelled white inner right first⟩
      · rename_i later comma
        obtain ⟨after, space, right, far, rfl⟩ := exists_eq_of_skip_eq_cons comma
        have within : skip later <:+: front ++ (gap ++ ':' :: (between ++
            (middle ++ (after ++ ',' :: (space ++ skip later))))) :=
          ⟨front ++ (gap ++ ':' :: (between ++ (middle ++ (after ++ ',' :: space)))), [], by simp⟩
        have deeper (deep : Overflows .read room .members (skip later)) :
            Overflows .read room .members (front ++ (gap ++ ':' :: (between ++
              (middle ++ (after ++ ',' :: (space ++ skip later)))))) :=
          .laterMember spaces_nil spelled white inner right first
            (deep.spaces_append far (by simp))
        refine (members (skip later)).bind within deeper fun more rest tail whole others => ?_
        refine ⟨front ++ (gap ++ ':' :: (between ++ (middle ++ (after ++ ',' :: (space ++ tail))))),
          by simp [whole], ?_⟩
        exact .nextMember spaces_nil spelled white inner right first
          (others.spaces_append far (by simp))
      · trivial
    · trivial
  · trivial

end

theorem follows_readValue {fuel : Nat}
    (items : ∀ room text, FollowsItems room text (readItems fuel room text))
    (members : ∀ room text, FollowsMembers room text (readMembers fuel room text))
    (room : Nat) (text : Text) : FollowsValue room text (readValue (fuel + 1) room text) := by
  unfold readValue
  split
  · rename_i quoted
    refine (follows_readString _ quoted).bind List.infix_rfl id
      fun value rest front whole spelled => ?_
    exact ⟨front, whole, .string spelled⟩
  · rename_i behind
    obtain ⟨gap, white, cut⟩ := exists_spaces_append_skip behind
    cases room with
    | zero => exact .opened (.inl rfl) behind
    | succ room =>
        dsimp only
        split
        · rename_i rest close
          rw [close] at cut
          exact ⟨'[' :: (gap ++ [']']), by simp [cut], .noItems white⟩
        · have within : skip behind <:+: '[' :: behind :=
            (List.dropWhile_suffix isSpace).isInfix.trans (List.suffix_cons ..).isInfix
          have deeper (deep : Overflows .read room .items (skip behind)) :
              Overflows .read (room + 1) .value ('[' :: behind) := by
            rw [cut]
            exact .array (deep.spaces_append white (by simp))
          refine (items room (skip behind)).bind within deeper
            fun items rest front whole inner => ?_
          rw [whole] at cut
          exact ⟨'[' :: ((gap ++ front) ++ [']']), by simp [cut],
            .array (inner.spaces_append white (by simp))⟩
  · rename_i behind
    obtain ⟨gap, white, cut⟩ := exists_spaces_append_skip behind
    cases room with
    | zero => exact .opened (.inr rfl) behind
    | succ room =>
        dsimp only
        split
        · rename_i rest close
          rw [close] at cut
          exact ⟨'{' :: (gap ++ ['}']), by simp [cut], .noMembers white⟩
        · have within : skip behind <:+: '{' :: behind :=
            (List.dropWhile_suffix isSpace).isInfix.trans (List.suffix_cons ..).isInfix
          have deeper (deep : Overflows .read room .members (skip behind)) :
              Overflows .read (room + 1) .value ('{' :: behind) := by
            rw [cut]
            exact .object (deep.spaces_append white (by simp))
          refine (members room (skip behind)).bind within deeper
            fun members rest front whole inner => ?_
          rw [whole] at cut
          exact ⟨'{' :: ((gap ++ front) ++ ['}']), by simp [cut],
            .object (inner.spaces_append white (by simp))⟩
  · exact follows_readScalar room text

/-- Whatever the reader takes is spelled, and what it refuses stands in the text. -/
theorem follows_reader (fuel : Nat) :
    (∀ room text, FollowsValue room text (readValue fuel room text)) ∧
    (∀ room text, FollowsItems room text (readItems fuel room text)) ∧
    ∀ room text, FollowsMembers room text (readMembers fuel room text) := by
  induction fuel with
  | zero => exact ⟨fun _ _ => trivial, fun _ _ => trivial, fun _ _ => trivial⟩
  | succ fuel ih =>
      obtain ⟨values, items, members⟩ := ih
      exact ⟨follows_readValue items members,
        fun room => follows_readItems (values room) (items room),
        fun room => follows_readMembers (values room) (members room)⟩

/-! ## What is spelled is read -/

/-- A number begins with a minus sign or a digit. -/
theorem DigitRow.exists_signText_append_eq (negative : Bool) {digits : Text}
    (row : DigitRow digits) (behind : Text) :
    ∃ c more, signText negative ++ (digits ++ behind) = c :: more ∧
      c ∉ '"' :: '[' :: '{' :: breaks := by
  cases negative with
  | true => exact ⟨'-', _, rfl, by decide⟩
  | false =>
      obtain ⟨first, more, rfl, isDigit⟩ := row.exists_cons
      refine ⟨first, more ++ behind, rfl, fun mem => ?_⟩
      have all : ∀ c ∈ '"' :: '[' :: '{' :: breaks, c.isDigit = false := by simp [breaks]
      rw [all first mem] at isDigit
      cases isDigit

theorem exists_eq_of_mem_fixedWords {word : Text} {value : Json}
    (listed : (word, value) ∈ fixedWords) :
    ∃ c more, word = c :: more ∧ c ∉ '"' :: '[' :: '{' :: breaks := by
  simp only [fixedWords, List.mem_cons, List.not_mem_nil, or_false, Prod.mk.injEq] at listed
  rcases listed with ⟨rfl, -⟩ | ⟨rfl, -⟩ | ⟨rfl, -⟩ | ⟨rfl, -⟩ | ⟨rfl, -⟩ | ⟨rfl, -⟩ <;>
    exact ⟨_, _, rfl, by decide⟩

/-- A value begins with a character that could not stand behind one. -/
theorem Spells.exists_eq_cons {value : Json} (spells : Spells terms room text (.value value)) :
    ∃ c more, text = c :: more ∧ c ∉ breaks := by
  have scalar (begun : ∃ c more, text = c :: more ∧ c ∉ '"' :: '[' :: '{' :: breaks) :
      ∃ c more, text = c :: more ∧ c ∉ breaks := by
    obtain ⟨c, more, whole, other⟩ := begun
    exact ⟨c, more, whole, fun mem => other (by simp [mem])⟩
  cases spells with
  | word listed => exact scalar (exists_eq_of_mem_fixedWords listed)
  | @integer _ negative digits row =>
      have begun := row.exists_signText_append_eq negative []
      rw [List.append_nil] at begun
      exact scalar begun
  | decimal negative row => exact scalar (row.exists_signText_append_eq negative _)
  | string quoted =>
      cases quoted
      exact ⟨'"', _, rfl, by decide⟩
  | noItems | array => exact ⟨'[', _, rfl, by decide⟩
  | noMembers | object => exact ⟨'{', _, rfl, by decide⟩

/-- White space before a value is passed over, and nothing of the value. -/
theorem Spells.skip_append {value : Json} (spells : Spells terms room text (.value value))
    {before : Text} (white : Spaces before) (rest : Text) :
    skip (before ++ (text ++ rest)) = text ++ rest := by
  obtain ⟨c, more, rfl, other⟩ := spells.exists_eq_cons
  have visible : isSpace c = false :=
    Bool.eq_false_iff.2 fun space => other (mem_breaks_of_isSpace space)
  exact skip_append_cons white visible (more ++ rest)

theorem SpellsString.skip_append {key : Text} (spells : SpellsString terms text key) {before : Text}
    (white : Spaces before) (rest : Text) : skip (before ++ (text ++ rest)) = text ++ rest := by
  cases spells
  exact skip_append_cons white rfl _

/-- Neither do items begin with a closing bracket, nor members with a closing brace. -/
theorem Spells.head?_skip_append {part : Part} (spells : Spells terms room text part)
    (other : ∀ value, part ≠ .value value) (rest : Text) :
    (skip (text ++ rest)).head? ≠ some ']' ∧ (skip (text ++ rest)).head? ≠ some '}' := by
  have item {before text behind : Text} {value : Json} (left : Spaces before)
      (first : Spells terms room text (.value value)) :
      (skip (before ++ (text ++ behind))).head? ≠ some ']' ∧
        (skip (before ++ (text ++ behind))).head? ≠ some '}' := by
    rw [first.skip_append left]
    obtain ⟨c, more, rfl, other⟩ := first.exists_eq_cons
    constructor <;> intro close <;> exact other (Option.some.inj close ▸ by decide)
  have member {before keyText behind key : Text} (left : Spaces before)
      (quoted : SpellsString terms keyText key) :
      (skip (before ++ (keyText ++ behind))).head? ≠ some ']' ∧
        (skip (before ++ (keyText ++ behind))).head? ≠ some '}' := by
    rw [quoted.skip_append left]
    cases quoted
    simp
  cases spells with
  | lastItem left _ first => simpa only [List.append_assoc] using item left first
  | nextItem left _ first => simpa only [List.append_assoc] using item left first
  | lastMember left quoted => simpa only [List.append_assoc] using member left quoted
  | nextMember left quoted => simpa only [List.append_assoc] using member left quoted
  | _ => exact absurd rfl (other _)

/-- How a part is read, with fuel for each of its characters, by a reader with any room left. -/
def Reads (terms : Terms) (room : Nat) (text : Text) : Part → Prop
  | .value value => ∀ fuel left rest, Breaks rest → text.length ≤ fuel →
      Gains terms (left < room) (readValue fuel left (text ++ rest)) (value, rest)
  | .items items => ∀ fuel left rest, text.length < fuel →
      Gains terms (left < room) (readItems fuel left (skip (text ++ ']' :: rest))) (items, rest)
  | .members members => ∀ fuel left rest, text.length < fuel →
      Gains terms (left < room) (readMembers fuel left (skip (text ++ '}' :: rest)))
        (members, rest)

theorem exists_fuel_eq {c : Char} {more : Text} {fuel : Nat}
    (enough : (c :: more).length ≤ fuel) : ∃ less, fuel = less + 1 :=
  ⟨fuel - 1, by simp only [List.length_cons] at enough; omega⟩

/-- What begins as neither string, array nor object is read as a word or a number. -/
theorem reads_of_readScalar {value : Json}
    (begun : ∃ c more, text = c :: more ∧ c ∉ '"' :: '[' :: '{' :: breaks)
    (gains : ∀ less rest, Breaks rest →
      Gains terms less (readScalar (text ++ rest)) (value, rest)) :
    Reads terms room text (.value value) := by
  intro fuel left rest breaks enough
  obtain ⟨c, more, rfl, other⟩ := begun
  obtain ⟨fuel, rfl⟩ := exists_fuel_eq enough
  simp only [List.mem_cons, not_or] at other
  have scalar : readValue (fuel + 1) left (c :: (more ++ rest)) =
      readScalar (c :: (more ++ rest)) := by
    rw [readValue]
    all_goals simp [other]
  rw [List.cons_append, scalar]
  exact gains _ rest breaks

theorem reads_string {value : Text} (quoted : SpellsString terms text value) :
    Reads terms room text (.value (string value)) := by
  intro fuel left rest _ enough
  obtain ⟨more, rfl, read⟩ := quoted.exists_readString
  obtain ⟨fuel, rfl⟩ := exists_fuel_eq enough
  rw [List.cons_append, readValue]
  exact (read _ rest).bind (.inl rfl)

/-- An array or object is refused where there is no room. -/
theorem gains_of_no_room {α : Type} (value : α) :
    Gains terms (0 < room + 1) (.error .tooDeep) value :=
  .inr ⟨.tooDeep, .tooDeep (Nat.succ_pos room), rfl⟩

/-! ### Arrays -/

section

variable {before after more : Text} {item : Json} {items : List Json}

theorem reads_noItems {gap : Text} (white : Spaces gap) :
    Reads terms (room + 1) ('[' :: (gap ++ [']'])) (.value (array [])) := by
  intro fuel left rest _ enough
  obtain ⟨fuel, rfl⟩ := exists_fuel_eq enough
  cases left with
  | zero => exact gains_of_no_room _
  | succ left =>
      rw [List.cons_append, List.append_assoc, List.singleton_append, readValue]
      dsimp only
      rw [skip_append_cons white rfl]
      exact .inl rfl

theorem reads_array (inner : Spells terms room text (.items items))
    (reads : Reads terms room text (.items items)) :
    Reads terms (room + 1) ('[' :: (text ++ [']'])) (.value (array items)) := by
  intro fuel left rest _ enough
  simp only [List.length_cons, List.length_append, List.length_nil] at enough
  obtain ⟨fuel, rfl⟩ := Nat.exists_eq_add_one.2 (by omega : 0 < fuel)
  cases left with
  | zero => exact gains_of_no_room _
  | succ left =>
      refine Gains.imp ?_ Nat.succ_lt_succ
      rw [List.cons_append, List.append_assoc, List.singleton_append, readValue]
      dsimp only
      split
      · rename_i close
        exact absurd (congrArg List.head? close) (inner.head?_skip_append (by simp) _).1
      · exact (reads fuel left rest (by omega)).bind (.inl rfl)

theorem reads_lastItem (left : Spaces before) (right : Spaces after)
    (first : Spells terms room text (.value item)) (reads : Reads terms room text (.value item)) :
    Reads terms room (before ++ (text ++ after)) (.items [item]) := by
  intro fuel _ rest enough
  simp only [List.length_append] at enough
  obtain ⟨fuel, rfl⟩ := Nat.exists_eq_add_one.2 (by omega : 0 < fuel)
  rw [List.append_assoc, List.append_assoc, first.skip_append left, readItems]
  refine (reads fuel _ _ (right.breaks_append (breaks_cons (by decide) rest)) (by omega)).bind ?_
  dsimp only
  rw [skip_append_cons right rfl]
  exact .inl rfl

theorem reads_nextItem (left : Spaces before) (right : Spaces after)
    (first : Spells terms room text (.value item)) (reads : Reads terms room text (.value item))
    (others : Reads terms room more (.items items)) :
    Reads terms room (before ++ (text ++ (after ++ ',' :: more))) (.items (item :: items)) := by
  intro fuel _ rest enough
  simp only [List.length_append, List.length_cons] at enough
  obtain ⟨fuel, rfl⟩ := Nat.exists_eq_add_one.2 (by omega : 0 < fuel)
  rw [List.append_assoc, List.append_assoc, List.append_assoc, List.cons_append,
    first.skip_append left, readItems]
  refine (reads fuel _ _ (right.breaks_append (breaks_cons (by decide) _)) (by omega)).bind ?_
  dsimp only
  rw [skip_append_cons right rfl]
  exact (others fuel _ rest (by omega)).bind (.inl rfl)

end

/-! ### Objects -/

section

variable {before keyText gap between after more key : Text} {value : Json}
  {members : List (Text × Json)}

theorem reads_noMembers (white : Spaces gap) :
    Reads terms (room + 1) ('{' :: (gap ++ ['}'])) (.value (object [])) := by
  intro fuel left rest _ enough
  obtain ⟨fuel, rfl⟩ := exists_fuel_eq enough
  cases left with
  | zero => exact gains_of_no_room _
  | succ left =>
      rw [List.cons_append, List.append_assoc, List.singleton_append, readValue]
      dsimp only
      rw [skip_append_cons white rfl]
      exact .inl rfl

theorem reads_object (inner : Spells terms room text (.members members))
    (reads : Reads terms room text (.members members)) :
    Reads terms (room + 1) ('{' :: (text ++ ['}']))
      (.value (object (Dictionary.ofPairs members))) := by
  intro fuel left rest _ enough
  simp only [List.length_cons, List.length_append, List.length_nil] at enough
  obtain ⟨fuel, rfl⟩ := Nat.exists_eq_add_one.2 (by omega : 0 < fuel)
  cases left with
  | zero => exact gains_of_no_room _
  | succ left =>
      refine Gains.imp ?_ Nat.succ_lt_succ
      rw [List.cons_append, List.append_assoc, List.singleton_append, readValue]
      dsimp only
      split
      · rename_i close
        exact absurd (congrArg List.head? close) (inner.head?_skip_append (by simp) _).2
      · exact (reads fuel left rest (by omega)).bind (.inl rfl)

theorem reads_lastMember (left : Spaces before) (quoted : SpellsString terms keyText key)
    (spaces : Spaces gap) (inner : Spaces between) (right : Spaces after)
    (first : Spells terms room text (.value value)) (reads : Reads terms room text (.value value)) :
    Reads terms room (before ++ (keyText ++ (gap ++ ':' :: (between ++ (text ++ after)))))
      (.members [(key, value)]) := by
  intro fuel _ rest enough
  simp only [List.length_append, List.length_cons] at enough
  obtain ⟨fuel, rfl⟩ := Nat.exists_eq_add_one.2 (by omega : 0 < fuel)
  simp only [List.append_assoc, List.cons_append]
  rw [quoted.skip_append left]
  obtain ⟨behind, rfl, read⟩ := quoted.exists_readString
  rw [List.cons_append, readMembers]
  refine (read _ _).bind ?_
  simp only [skip_append_cons spaces (c := ':') rfl, first.skip_append inner]
  refine (reads fuel _ _ (right.breaks_append (breaks_cons (by decide) rest)) (by omega)).bind ?_
  dsimp only
  rw [skip_append_cons right rfl]
  exact .inl rfl

theorem reads_nextMember (left : Spaces before) (quoted : SpellsString terms keyText key)
    (spaces : Spaces gap) (inner : Spaces between) (right : Spaces after)
    (first : Spells terms room text (.value value)) (reads : Reads terms room text (.value value))
    (others : Reads terms room more (.members members)) :
    Reads terms room
      (before ++ (keyText ++ (gap ++ ':' :: (between ++ (text ++ (after ++ ',' :: more))))))
      (.members ((key, value) :: members)) := by
  intro fuel _ rest enough
  simp only [List.length_append, List.length_cons] at enough
  obtain ⟨fuel, rfl⟩ := Nat.exists_eq_add_one.2 (by omega : 0 < fuel)
  simp only [List.append_assoc, List.cons_append]
  rw [quoted.skip_append left]
  obtain ⟨behind, rfl, read⟩ := quoted.exists_readString
  rw [List.cons_append, readMembers]
  refine (read _ _).bind ?_
  simp only [skip_append_cons spaces (c := ':') rfl, first.skip_append inner]
  refine (reads fuel _ _ (right.breaks_append (breaks_cons (by decide) _)) (by omega)).bind ?_
  dsimp only
  rw [skip_append_cons right rfl]
  exact (others fuel _ rest (by omega)).bind (.inl rfl)

end

/-- Whatever is spelled is read, unless there is a reason to refuse it. -/
theorem Spells.reads {part : Part} (spells : Spells terms room text part) :
    Reads terms room text part := by
  induction spells with
  | word listed =>
      exact reads_of_readScalar (exists_eq_of_mem_fixedWords listed)
        fun _ rest _ => .inl (readScalar_word_append listed rest)
  | integer negative row fit =>
      have begun := row.exists_signText_append_eq negative []
      rw [List.append_nil] at begun
      refine reads_of_readScalar begun fun less rest breaks => ?_
      rw [List.append_assoc, readScalar_signText_append negative row.toDigitRow]
      exact gains_integer less negative row fit breaks
  | decimal negative row places scale broken =>
      refine reads_of_readScalar (row.exists_signText_append_eq negative _) fun _ rest breaks => ?_
      simp only [List.append_assoc]
      rw [readScalar_signText_append negative row.toDigitRow]
      exact .inl (readNumber_decimal_append negative row places scale broken breaks)
  | string quoted => exact reads_string quoted
  | noItems white => exact reads_noItems white
  | array inner reads => exact reads_array inner reads
  | noMembers white => exact reads_noMembers white
  | object inner reads => exact reads_object inner reads
  | lastItem left right first reads => exact reads_lastItem left right first reads
  | nextItem left right first _ reads others => exact reads_nextItem left right first reads others
  | lastMember left quoted spaces inner right first reads =>
      exact reads_lastMember left quoted spaces inner right first reads
  | nextMember left quoted spaces inner right first _ reads others =>
      exact reads_nextMember left quoted spaces inner right first reads others

/-! ## Whole texts -/

theorem skip_eq_nil_iff : skip text = [] ↔ Spaces text :=
  List.dropWhile_eq_nil_iff

variable {limit : Nat}

/-- What the reader makes of a text follows the text. -/
theorem follows_read (limit : Nat) (text : Text) :
    match read limit text with
    | .ok value => Denotes .read limit text value
    | .error .malformed => True
    | .error (.tooLong fault) => HasLongInteger fault text
    | .error .tooDeep => GoesTooDeep limit text
    | .error .halfPair => HasHalfPair text := by
  have follows := (follows_reader (2 * text.length + 1)).1 limit (skip text)
  have within : skip text <:+: text := (List.dropWhile_suffix isSpace).isInfix
  obtain ⟨before, white, cut⟩ := exists_spaces_append_skip text
  rw [read]
  cases outcome : readValue (2 * text.length + 1) limit (skip text) with
  | ok taken =>
      obtain ⟨value, rest⟩ := taken
      rw [outcome] at follows
      obtain ⟨front, whole, spells⟩ := follows
      by_cases done : skip rest = []
      · have whole : text = before ++ (front ++ rest) := cut.trans (by rw [whole]; rfl)
        simp only [bind, Except.bind, done, if_true]
        rw [whole]
        exact .whole white (skip_eq_nil_iff.1 done) spells
      · simp only [bind, Except.bind, done, if_false]
  | error error =>
      rw [outcome] at follows
      cases error with
      | malformed => trivial
      | tooLong fault => exact HasLongInteger.mono follows within
      | tooDeep => exact ⟨before, _, white, cut, follows⟩
      | halfPair => exact HasHalfPair.mono follows within

/-- A text of the grammar is read as its value, unless there is a reason to refuse it. -/
theorem Denotes.gains_read {value : Json} (denotes : Denotes terms room text value) (limit : Nat) :
    Gains terms (limit < room) (read limit text) value := by
  cases denotes with
  | @whole before text after value left right inner =>
      have enough : text.length ≤ 2 * (before ++ (text ++ after)).length + 1 := by
        simp only [List.length_append]
        omega
      have behind : Breaks after := List.append_nil after ▸ right.breaks_append breaks_nil
      rw [read, inner.skip_append left]
      exact (inner.reads _ limit after behind enough).bind
        (.inl (if_pos (skip_eq_nil_iff.2 right)))

/-- The reader takes exactly the texts of the grammar that keep to its terms and to the limit. -/
theorem read_eq_ok_iff {value : Json} :
    read limit text = .ok value ↔ Denotes .read limit text value := by
  constructor
  · intro done
    have follows := follows_read limit text
    rw [done] at follows
    exact follows
  · intro denotes
    exact (denotes.gains_read limit).eq_ok (Nat.lt_irrefl limit)

/-- A text has one value. -/
theorem Denotes.unique {value other : Json} (first : Denotes .read limit text value)
    (second : Denotes .read limit text other) : value = other :=
  Except.ok.inj ((read_eq_ok_iff.2 first).symm.trans (read_eq_ok_iff.2 second))

end PatchSurvey.Json
