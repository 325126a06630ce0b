import PatchSurvey.Proofs.Pattern.Extension

/-! # Blanks at the end of a text

A pattern that is found in a text with blanks at its end is found without them, unless it
needs the blanks. Every place of the longer text has a place of the shorter one that trails
it: the same place, or the end of the shorter text for the places among the blanks. Reading
on from both places keeps them so, where the pattern reads blanks at its end only in
repetitions. -/

namespace PatchSurvey

open Text

/-- The first place is in a text with blanks at its end, the second where it would be without
them. -/
inductive Place.Trails (blanks : Text) : Place → Place → Prop where
  | within (a : Place) : Trails blanks (a.append blanks) a
  | beyond {b a : Place} (last : b.last.any isBlank = true) (rest : b.rest <:+ blanks)
      (ends : a.rest = []) : Trails blanks b a

namespace Pattern

open Place

/-! ## Trailing places -/

section

variable {blanks : Text} (blank : ∀ c ∈ blanks, isBlank c = true)
include blank

/-- A character is read in both texts, or is one of the blanks. -/
theorem trails_of_cons {a b : Place} (trails : Trails blanks b a) {c : Char} {rest : Text}
    (ahead : b.rest = c :: rest) :
    (∃ behind, a.rest = c :: behind ∧ Trails blanks ⟨some c, rest⟩ ⟨some c, behind⟩) ∨
      a.rest = [] ∧ isBlank c = true ∧ Trails blanks ⟨some c, rest⟩ a := by
  cases trails with
  | within =>
      rw [Place.append] at ahead
      rcases List.append_eq_cons_iff.1 ahead with ⟨ends, whole⟩ | ⟨behind, next, rfl⟩
      · have first := blank c (whole ▸ List.mem_cons_self ..)
        exact .inr ⟨ends, first, .beyond first ⟨[c], whole.symm⟩ ends⟩
      · exact .inl ⟨behind, next, .within ⟨some c, behind⟩⟩
  | beyond _ suffix ends =>
      rw [ahead] at suffix
      have first := blank c (suffix.subset (List.mem_cons_self ..))
      exact .inr ⟨ends, first, .beyond first ((List.suffix_cons c rest).trans suffix) ends⟩

/-- Before a visible character both places are the same. -/
theorem exists_append_of_hasVisible {a b m : Place} (trails : Trails blanks b a) {stretch : Text}
    (ahead : b.rest = stretch ++ m.rest) (visible : m.rest.HasVisible) :
    b = a.append blanks ∧ ∃ n : Place, m = n.append blanks := by
  have beyond : ¬ m.rest <:+ blanks := by
    intro suffix
    obtain ⟨c, mem, seen⟩ := visible
    rw [blank c (suffix.subset mem)] at seen
    cases seen
  cases trails with
  | within =>
      refine ⟨rfl, ?_⟩
      rw [Place.append] at ahead
      rcases List.append_eq_append_iff.1 ahead with ⟨across, -, tail⟩ | ⟨rest, -, tail⟩
      · exact absurd ⟨across, tail.symm⟩ beyond
      · exact ⟨⟨m.last, rest⟩, Place.ext rfl tail⟩
  | beyond _ suffix _ => exact absurd (List.IsSuffix.trans ⟨stretch, ahead.symm⟩ suffix) beyond

theorem isWord_head?_of_suffix {text : Text} (suffix : text <:+ blanks) :
    text.head?.any isWord = false := by
  cases text with
  | nil => rfl
  | cons c text => exact not_isWord_of_isBlank (blank c (suffix.subset (List.mem_cons_self ..)))

end

/-! ## Patterns that need no blanks at the end -/

/-- Behind the last visible character the pattern needs no blank. -/
def retreats : Pattern → Bool
  | one accepts => (one accepts).demandsVisible
  | both first second =>
      second.retreats && (first.shortens && second.demandsVisible || first.retreats)
  | either first second => first.retreats && second.retreats
  | many body => body.single || body.retreats
  | nothing | textStart | textEnd | wordEdge => true
  | unlessNext _ => false

section

variable {blanks : Text} (blank : ∀ c ∈ blanks, isBlank c = true)
include blank

theorem Spans.retreat_one {accepts : Char → Bool} {a b c : Place} (trails : Trails blanks b a)
    (spans : Spans (one accepts) b c) (some : a.rest ≠ []) :
    ∃ d, Spans (one accepts) a d ∧ Trails blanks c d := by
  obtain ⟨x, rest, ahead, accepted, rfl⟩ := spans
  rcases trails_of_cons blank trails ahead with ⟨behind, next, trails⟩ | ⟨ends, -⟩
  · exact ⟨_, ⟨x, behind, next, accepted, rfl⟩, trails⟩
  · exact absurd ends some

/-- A stretch before a visible character is spanned in both texts. -/
theorem Spans.retreat_of_hasVisible {pattern : Pattern} {a b c : Place} (trails : Trails blanks b a)
    (spans : Spans pattern b c) (shortens : pattern.shortens = true) (visible : c.rest.HasVisible) :
    ∃ d, Spans pattern a d ∧ Trails blanks c d := by
  obtain ⟨stretch, ahead, -⟩ := spans.exists_stretch
  obtain ⟨rfl, d, rfl⟩ := exists_append_of_hasVisible blank trails ahead visible
  have stop : blanks.head?.any isWord = false := isWord_head?_of_suffix blank List.suffix_rfl
  exact ⟨d, spans.shorten stop shortens, .within d⟩

/-- What is spanned with the blanks at the end is spanned without them, up to a trailing place. -/
theorem Spans.retreat {pattern : Pattern} {a b c : Place} (trails : Trails blanks b a)
    (spans : Spans pattern b c) (retreats : pattern.retreats = true) :
    ∃ d, Spans pattern a d ∧ Trails blanks c d := by
  have stop : blanks.head?.any isWord = false := isWord_head?_of_suffix blank List.suffix_rfl
  induction pattern generalizing a b c with
  | nothing =>
      obtain rfl : c = b := spans
      exact ⟨a, rfl, trails⟩
  | one accepts =>
      obtain ⟨x, rest, ahead, accepted, rfl⟩ := spans
      rcases trails_of_cons blank trails ahead with ⟨behind, next, trails⟩ | ⟨-, first, -⟩
      · exact ⟨_, ⟨x, behind, next, accepted, rfl⟩, trails⟩
      · rw [refuses_of_isBlank retreats first] at accepted
        cases accepted
  | both first second ihFirst ihSecond =>
      obtain ⟨retreatsSecond, retreatsFirst⟩ := Bool.and_eq_true_iff.1 retreats
      obtain ⟨m, left, right⟩ := spans
      have head : ∃ n, Spans first a n ∧ Trails blanks m n := by
        rcases Bool.or_eq_true_iff.1 retreatsFirst with visible | retreatsFirst
        · obtain ⟨shortens, demands⟩ := Bool.and_eq_true_iff.1 visible
          obtain ⟨stretch, whole, seen⟩ := right.exists_stretch
          have visible : m.rest.HasVisible :=
            (seen demands).mono (whole ▸ List.subset_append_left ..)
          exact left.retreat_of_hasVisible blank trails shortens visible
        · exact ihFirst trails left retreatsFirst
      obtain ⟨n, left, trails⟩ := head
      obtain ⟨d, right, trails⟩ := ihSecond trails right retreatsSecond
      exact ⟨d, ⟨n, left, right⟩, trails⟩
  | either first second ihFirst ihSecond =>
      obtain ⟨retreatsFirst, retreatsSecond⟩ := Bool.and_eq_true_iff.1 retreats
      rcases spans with left | right
      · obtain ⟨d, left, trails⟩ := ihFirst trails left retreatsFirst
        exact ⟨d, .inl left, trails⟩
      · obtain ⟨d, right, trails⟩ := ihSecond trails right retreatsSecond
        exact ⟨d, .inr right, trails⟩
  | many body ih =>
      rw [Spans] at spans
      rcases Bool.or_eq_true_iff.1 retreats with single | retreats
      · obtain ⟨accepts, rfl⟩ := exists_eq_one_of_single single
        induction spans generalizing a with
        | stop => exact ⟨a, .stop a, trails⟩
        | more head _ ihTail =>
            obtain ⟨x, rest, ahead, accepted, rfl⟩ := head
            rcases trails_of_cons blank trails ahead with ⟨behind, next, trails⟩ | ⟨-, -, trails⟩
            · obtain ⟨d, tail, trails⟩ := ihTail trails
              exact ⟨d, .more ⟨x, behind, next, accepted, rfl⟩ tail, trails⟩
            · exact ihTail trails
      · induction spans generalizing a with
        | stop => exact ⟨a, .stop a, trails⟩
        | more head _ ihTail =>
            obtain ⟨n, head, trails⟩ := ih trails head retreats
            obtain ⟨d, tail, trails⟩ := ihTail trails
            exact ⟨d, .more head tail, trails⟩
  | textStart =>
      obtain rfl := spans.2
      cases trails with
      | within => exact ⟨a, spans.shorten stop rfl, .within a⟩
      | beyond last =>
          rw [spans.1] at last
          cases last
  | textEnd =>
      obtain rfl := spans.2
      cases trails with
      | within => exact ⟨a, spans.shorten stop rfl, .within a⟩
      | beyond last suffix ends => exact ⟨a, ⟨.inl ends, rfl⟩, .beyond last suffix ends⟩
  | wordEdge =>
      obtain ⟨edge, rfl⟩ := spans
      cases trails with
      | within => exact ⟨a, Spans.shorten stop ⟨edge, rfl⟩ rfl, .within a⟩
      | beyond last suffix =>
          have after : c.afterWord = false := by
            obtain ⟨x, last, seen⟩ := (Option.any_eq_true _ _).1 last
            rw [afterWord, last, Option.any_some, not_isWord_of_isBlank seen]
          exact absurd (after.trans (isWord_head?_of_suffix blank suffix).symm) edge
  | unlessNext => cases retreats

/-- Such a pattern is found without the blanks at the end. -/
theorem search_of_append_blanks {pattern : Pattern} (retreats : pattern.retreats = true)
    (demands : pattern.demandsVisible = true) {text : Text}
    (found : pattern.search (text ++ blanks) = true) : pattern.search text = true := by
  obtain ⟨a, here, c, spans⟩ := search_iff.1 found
  obtain ⟨stretch, ahead, visible⟩ := spans.exists_stretch
  cases blanks with
  | nil => rwa [List.append_nil] at found
  | cons d blanks =>
      rcases mem_places_append_cons_iff.1 here with ⟨b, inText, rfl⟩ | beyond
      · obtain ⟨e, spans, -⟩ := spans.retreat blank (.within b) retreats
        exact search_iff.2 ⟨b, inText, e, spans⟩
      · obtain ⟨x, mem, seen⟩ := visible demands
        have among :=
          (rest_isSuffix_of_mem_places beyond).subset (ahead ▸ List.mem_append_left _ mem)
        rw [blank x (List.mem_cons_of_mem d among)] at seen
        cases seen

end

end Pattern

end PatchSurvey
