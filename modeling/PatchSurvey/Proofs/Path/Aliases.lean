import PatchSurvey.Path.Aliases

/-! # Keys of tags

The tables are looked up under the key of the last custom alias of a tag, else of its
built-in alias, else under the tag itself. -/

namespace PatchSurvey.Path

/-- The key of a tag under custom aliases. Their tags and keys count in lower case, and of
several aliases of one tag the last. -/
inductive KeyOf (custom : Aliases) (tag : Text) : Text → Prop
  | custom (before after : Aliases) (spelled key : Text)
      (listed : custom = before ++ (spelled, key) :: after) (named : Text.lower spelled = tag)
      (last : ∀ entry ∈ after, Text.lower entry.1 ≠ tag) : KeyOf custom tag (Text.lower key)
  | builtIn (key : Text) (uncustomized : ∀ entry ∈ custom, Text.lower entry.1 ≠ tag)
      (listed : (tag, key) ∈ builtInAliases) : KeyOf custom tag key
  | itself (uncustomized : ∀ entry ∈ custom, Text.lower entry.1 ≠ tag)
      (unlisted : ∀ entry ∈ builtInAliases, entry.1 ≠ tag) : KeyOf custom tag tag

variable {custom : Aliases} {tag key : Text}

theorem resolve_effectiveAliases (custom : Aliases) (tag : Text) :
    resolve (effectiveAliases custom) tag =
      (((custom.reverse.find? fun entry => Text.lower entry.1 = tag).map
        fun entry => Text.lower entry.2).or (builtInAliases.get? tag)).getD tag := by
  rw [resolve, effectiveAliases, Dictionary.get?_putAll, ← List.map_reverse, List.find?_map,
    Option.map_map]
  rfl

theorem find?_reverse_eq_none (uncustomized : ∀ entry ∈ custom, Text.lower entry.1 ≠ tag) :
    (custom.reverse.find? fun entry => Text.lower entry.1 = tag) = none := by
  rw [List.find?_eq_none]
  intro entry mem
  simpa using uncustomized entry (List.mem_reverse.1 mem)

/-- Every built-in alias is found under its tag. -/
theorem get?_builtInAliases (listed : (tag, key) ∈ builtInAliases) :
    builtInAliases.get? tag = some key := by
  have all : ∀ entry ∈ builtInAliases, builtInAliases.get? entry.1 = some entry.2 := by decide
  exact all _ listed

theorem KeyOf.eq_resolve (named : KeyOf custom tag key) :
    key = resolve (effectiveAliases custom) tag := by
  rw [resolve_effectiveAliases]
  -- the last alias of the tag is the first that is met from behind
  cases named with
  | custom before after spelled key listed named last =>
      rw [listed, List.reverse_append, List.reverse_cons, List.append_assoc, List.find?_append,
        find?_reverse_eq_none last, List.singleton_append,
        List.find?_cons_of_pos (by simpa using named)]
      rfl
  | builtIn key uncustomized listed =>
      rw [find?_reverse_eq_none uncustomized, get?_builtInAliases listed]
      rfl
  | itself uncustomized unlisted =>
      rw [find?_reverse_eq_none uncustomized, Dictionary.get?_eq_none unlisted]
      rfl

/-- Every tag has a key. -/
theorem exists_keyOf (custom : Aliases) (tag : Text) : ∃ key, KeyOf custom tag key := by
  cases found : custom.reverse.find? fun entry => Text.lower entry.1 = tag with
  | some entry =>
      obtain ⟨named, after, before, whole, others⟩ := List.find?_eq_some_iff_append.1 found
      refine ⟨_, .custom before.reverse after.reverse entry.1 entry.2 ?_ (by simpa using named) ?_⟩
      · rw [← List.reverse_inj, whole]
        simp
      · intro other mem
        simpa using others other (List.mem_reverse.1 mem)
  | none =>
      have uncustomized : ∀ entry ∈ custom, Text.lower entry.1 ≠ tag := by
        intro entry mem
        simpa using List.find?_eq_none.1 found entry (List.mem_reverse.2 mem)
      by_cases listed : ∃ entry ∈ builtInAliases, entry.1 = tag
      · obtain ⟨entry, mem, rfl⟩ := listed
        exact ⟨entry.2, .builtIn entry.2 uncustomized mem⟩
      · exact ⟨tag, .itself uncustomized fun entry mem same => listed ⟨entry, mem, same⟩⟩

/-- The key of a tag is what the tag is resolved to. -/
theorem keyOf_iff_eq_resolve :
    KeyOf custom tag key ↔ key = resolve (effectiveAliases custom) tag := by
  constructor
  · exact KeyOf.eq_resolve
  · rintro rfl
    obtain ⟨key, named⟩ := exists_keyOf custom tag
    rwa [← named.eq_resolve]

end PatchSurvey.Path
