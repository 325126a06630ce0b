import PatchSurvey.Proofs.Json.Reading

/-! # Texts that go too deep

A text is refused for its depth exactly if an array or object is opened in it for which there is
no room, and all that stands before keeps to the grammar. What stands behind does not matter, be
it JSON or not. -/

namespace PatchSurvey.Json

variable {room limit : Nat} {text : Text}

/-- A value that goes too deep begins with a bracket or a brace. -/
theorem Overflows.exists_eq_cons (deep : Overflows .read room .value text) :
    ∃ mark rest, text = mark :: rest ∧ (mark = '[' ∨ mark = '{') := by
  cases deep with
  | opened opener rest => exact ⟨_, rest, rfl, opener⟩
  | array => exact ⟨'[', _, rfl, .inl rfl⟩
  | object => exact ⟨'{', _, rfl, .inr rfl⟩

/-- White space before such a value is passed over, and nothing of the value. -/
theorem Overflows.skip_append (deep : Overflows .read room .value text) {before : Text}
    (white : Spaces before) : skip (before ++ text) = text := by
  obtain ⟨mark, rest, rfl, rfl | rfl⟩ := deep.exists_eq_cons
  · exact skip_append_cons white rfl rest
  · exact skip_append_cons white rfl rest

/-- Items or members that go too deep do not begin with a closing mark. -/
theorem Overflows.head?_skip {kind : PartKind} (deep : Overflows .read room kind text)
    (other : kind ≠ .value) :
    (skip text).head? ≠ some ']' ∧ (skip text).head? ≠ some '}' := by
  cases deep with
  | item left deep =>
      rw [deep.skip_append left]
      obtain ⟨mark, rest, rfl, rfl | rfl⟩ := deep.exists_eq_cons <;> simp
  | laterItem left _ first =>
      rw [first.skip_append left]
      obtain ⟨c, more, rfl, other⟩ := first.exists_eq_cons
      constructor <;> intro close <;> exact other (Option.some.inj close ▸ by decide)
  | member left quoted | laterMember left quoted =>
      rw [quoted.skip_append left]
      cases quoted
      simp
  | _ => exact absurd rfl other

/-- How a part that goes too deep is refused. Every bracket or brace takes fuel for a value and for
its first item or member. -/
def Fails (room : Nat) (text : Text) : PartKind → Prop
  | .value => ∀ fuel, 2 * text.length ≤ fuel → readValue fuel room text = .error .tooDeep
  | .items => ∀ fuel, 2 * text.length < fuel → readItems fuel room (skip text) = .error .tooDeep
  | .members =>
      ∀ fuel, 2 * text.length < fuel → readMembers fuel room (skip text) = .error .tooDeep

/-! ## One part -/

theorem fails_array (deep : Overflows .read room .items text) (fails : Fails room text .items) :
    Fails (room + 1) ('[' :: text) .value := by
  intro fuel enough
  simp only [List.length_cons] at enough
  obtain ⟨fuel, rfl⟩ := Nat.exists_eq_add_one.2 (by omega : 0 < fuel)
  rw [readValue]
  dsimp only
  split
  · rename_i close
    exact absurd (congrArg List.head? close) (deep.head?_skip (by simp)).1
  · rw [fails fuel (by omega)]
    rfl

theorem fails_object (deep : Overflows .read room .members text)
    (fails : Fails room text .members) : Fails (room + 1) ('{' :: text) .value := by
  intro fuel enough
  simp only [List.length_cons] at enough
  obtain ⟨fuel, rfl⟩ := Nat.exists_eq_add_one.2 (by omega : 0 < fuel)
  rw [readValue]
  dsimp only
  split
  · rename_i close
    exact absurd (congrArg List.head? close) (deep.head?_skip (by simp)).2
  · rw [fails fuel (by omega)]
    rfl

theorem fails_item {before : Text} (left : Spaces before) (deep : Overflows .read room .value text)
    (fails : Fails room text .value) : Fails room (before ++ text) .items := by
  intro fuel enough
  simp only [List.length_append] at enough
  obtain ⟨fuel, rfl⟩ := Nat.exists_eq_add_one.2 (by omega : 0 < fuel)
  rw [deep.skip_append left, readItems, fails fuel (by omega)]
  rfl

section

variable {before after more : Text}

theorem fails_laterItem {item : Json} (left : Spaces before) (right : Spaces after)
    (first : Spells .read room text (.value item)) (fails : Fails room more .items) :
    Fails room (before ++ (text ++ (after ++ ',' :: more))) .items := by
  intro fuel enough
  simp only [List.length_append, List.length_cons] at enough
  obtain ⟨fuel, rfl⟩ := Nat.exists_eq_add_one.2 (by omega : 0 < fuel)
  have behind := right.breaks_append (breaks_cons (by decide : ',' ∈ breaks) more)
  have taken := (first.reads fuel room _ behind (by omega)).eq_ok (Nat.lt_irrefl room)
  rw [first.skip_append left, readItems, taken]
  simp only [bind, Except.bind, skip_append_cons right (c := ',') rfl]
  rw [fails fuel (by omega)]

variable {keyText gap between key : Text}

theorem fails_member (left : Spaces before) (quoted : SpellsString .read keyText key)
    (spaces : Spaces gap) (inner : Spaces between) (deep : Overflows .read room .value text)
    (fails : Fails room text .value) :
    Fails room (before ++ (keyText ++ (gap ++ ':' :: (between ++ text)))) .members := by
  intro fuel enough
  simp only [List.length_append, List.length_cons] at enough
  obtain ⟨fuel, rfl⟩ := Nat.exists_eq_add_one.2 (by omega : 0 < fuel)
  rw [quoted.skip_append left]
  obtain ⟨rest, rfl, read⟩ := quoted.exists_readString
  have named := (read False (gap ++ ':' :: (between ++ text))).eq_ok not_false
  rw [List.cons_append, readMembers, named]
  simp only [bind, Except.bind, skip_append_cons spaces (c := ':') rfl, deep.skip_append inner]
  rw [fails fuel (by omega)]

theorem fails_laterMember {value : Json} (left : Spaces before)
    (quoted : SpellsString .read keyText key) (spaces : Spaces gap) (inner : Spaces between)
    (right : Spaces after) (first : Spells .read room text (.value value))
    (fails : Fails room more .members) :
    Fails room
      (before ++ (keyText ++ (gap ++ ':' :: (between ++ (text ++ (after ++ ',' :: more))))))
      .members := by
  intro fuel enough
  simp only [List.length_append, List.length_cons] at enough
  obtain ⟨fuel, rfl⟩ := Nat.exists_eq_add_one.2 (by omega : 0 < fuel)
  rw [quoted.skip_append left]
  obtain ⟨rest, rfl, read⟩ := quoted.exists_readString
  have named := (read False
    (gap ++ ':' :: (between ++ (text ++ (after ++ ',' :: more))))).eq_ok not_false
  have behind := right.breaks_append (breaks_cons (by decide : ',' ∈ breaks) more)
  have taken := (first.reads fuel room _ behind (by omega)).eq_ok (Nat.lt_irrefl room)
  rw [List.cons_append, readMembers, named]
  simp only [bind, Except.bind, skip_append_cons spaces (c := ':') rfl, first.skip_append inner,
    taken, skip_append_cons right (c := ',') rfl]
  rw [fails fuel (by omega)]

end

/-! ## Whole texts -/

/-- Whatever goes too deep is refused for it. -/
theorem Overflows.fails {kind : PartKind} (deep : Overflows .read room kind text) :
    Fails room text kind := by
  induction deep with
  | opened opener rest =>
      intro fuel enough
      simp only [List.length_cons] at enough
      obtain ⟨fuel, rfl⟩ := Nat.exists_eq_add_one.2 (by omega : 0 < fuel)
      rcases opener with rfl | rfl <;> rfl
  | array deep fails => exact fails_array deep fails
  | object deep fails => exact fails_object deep fails
  | item left deep fails => exact fails_item left deep fails
  | laterItem left right first _ fails => exact fails_laterItem left right first fails
  | member left quoted spaces inner deep fails =>
      exact fails_member left quoted spaces inner deep fails
  | laterMember left quoted spaces inner right first _ fails =>
      exact fails_laterMember left quoted spaces inner right first fails

end PatchSurvey.Json
