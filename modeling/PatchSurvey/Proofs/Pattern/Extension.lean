import PatchSurvey.Proofs.Pattern.Lookahead
import PatchSurvey.Proofs.Pattern.Visible

/-! # Text added at the end

A pattern that does not ask for the end of the text keeps its stretches when text is
added that does not go on with a word. A pattern that cannot read the first visible
character of what is added finds nothing across the seam. -/

namespace PatchSurvey

namespace Place

/-- The same place with more text ahead. -/
def append (place : Place) (more : Text) : Place :=
  ⟨place.last, place.rest ++ more⟩

theorem append_inj {a b : Place} {more : Text} (same : a.append more = b.append more) : a = b := by
  obtain ⟨last, rest⟩ := Place.mk.inj same
  exact Place.ext last (List.append_cancel_right rest)

theorem beforeWord_append {more : Text} (stop : more.head?.any Text.isWord = false) (place : Place) :
    (place.append more).beforeWord = place.beforeWord := by
  obtain ⟨last, rest⟩ := place
  cases rest with
  | nil => exact stop
  | cons c rest => rfl

end Place

namespace Pattern

open Place Text

/-! ## Patterns that go on -/

/-- The pattern asks neither for the end of the text nor for what is not there. -/
def settled : Pattern → Bool
  | both first second | either first second => first.settled && second.settled
  | many body => body.settled
  | textEnd | unlessNext _ => false
  | nothing | one _ | textStart | wordEdge => true

/-- The stretches that end before text at the end do not depend on it. -/
def shortens : Pattern → Bool
  | both first second | either first second => first.shortens && second.shortens
  | many body => body.shortens
  | unlessNext body => body.settled
  | nothing | one _ | textStart | textEnd | wordEdge => true

theorem shortens_of_settled {pattern : Pattern} (settled : pattern.settled = true) :
    pattern.shortens = true := by
  induction pattern with
  | both first second ihFirst ihSecond | either first second ihFirst ihSecond =>
      obtain ⟨settledFirst, settledSecond⟩ := Bool.and_eq_true_iff.1 settled
      exact Bool.and_eq_true_iff.2 ⟨ihFirst settledFirst, ihSecond settledSecond⟩
  | many body ih => exact ih settled
  | nothing | one | textStart | wordEdge => rfl
  | textEnd | unlessNext => cases settled

/-- What leads to a place of the text stands in the text too. -/
theorem exists_append_of_spans {pattern : Pattern} {a b : Place} {more : Text}
    (spans : Spans pattern a (b.append more)) : ∃ m : Place, a = m.append more := by
  obtain ⟨stretch, whole, -⟩ := spans.exists_stretch
  refine ⟨⟨a.last, stretch ++ b.rest⟩, Place.ext rfl ?_⟩
  rw [whole, Place.append, Place.append, List.append_assoc]

section

variable {more : Text} (stop : more.head?.any isWord = false)
include stop

/-- The stretches are kept when more text is added. -/
theorem Spans.append {pattern : Pattern} {a b : Place} (spans : Spans pattern a b)
    (settled : pattern.settled = true) : Spans pattern (a.append more) (b.append more) := by
  induction pattern generalizing a b with
  | nothing => exact congrArg (Place.append · more) spans
  | one accepts =>
      obtain ⟨c, rest, ahead, accepted, rfl⟩ := spans
      exact ⟨c, rest ++ more, by rw [Place.append, ahead, List.cons_append], accepted, rfl⟩
  | both first second ihFirst ihSecond =>
      obtain ⟨settledFirst, settledSecond⟩ := Bool.and_eq_true_iff.1 settled
      obtain ⟨m, left, right⟩ := spans
      exact ⟨m.append more, ihFirst left settledFirst, ihSecond right settledSecond⟩
  | either first second ihFirst ihSecond =>
      obtain ⟨settledFirst, settledSecond⟩ := Bool.and_eq_true_iff.1 settled
      exact spans.imp (ihFirst · settledFirst) (ihSecond · settledSecond)
  | many body ih =>
      rw [Spans] at spans ⊢
      induction spans with
      | stop => exact .stop _
      | more head _ ihTail => exact .more (ih head settled) ihTail
  | textStart =>
      obtain ⟨start, rfl⟩ := spans
      exact ⟨start, rfl⟩
  | wordEdge =>
      obtain ⟨edge, rfl⟩ := spans
      refine ⟨?_, rfl⟩
      rw [beforeWord_append stop]
      exact edge
  | textEnd | unlessNext => cases settled

/-- Stretches that end before the added text were there before. -/
theorem Spans.shorten {pattern : Pattern} {a b : Place}
    (spans : Spans pattern (a.append more) (b.append more)) (shortens : pattern.shortens = true) :
    Spans pattern a b := by
  induction pattern generalizing a b with
  | nothing => exact Place.append_inj spans
  | one accepts =>
      obtain ⟨c, rest, ahead, accepted, same⟩ := spans
      obtain ⟨last, rfl⟩ := Place.mk.inj same
      exact ⟨c, b.rest, List.append_cancel_right ahead, accepted, Place.ext last rfl⟩
  | both first second ihFirst ihSecond =>
      obtain ⟨shortensFirst, shortensSecond⟩ := Bool.and_eq_true_iff.1 shortens
      obtain ⟨n, left, right⟩ := spans
      obtain ⟨m, rfl⟩ := exists_append_of_spans right
      exact ⟨m, ihFirst left shortensFirst, ihSecond right shortensSecond⟩
  | either first second ihFirst ihSecond =>
      obtain ⟨shortensFirst, shortensSecond⟩ := Bool.and_eq_true_iff.1 shortens
      exact spans.imp (ihFirst · shortensFirst) (ihSecond · shortensSecond)
  | many body ih =>
      rw [Spans] at spans ⊢
      generalize start : a.append more = p at spans
      generalize finish : b.append more = q at spans
      induction spans generalizing a with
      | stop =>
          rw [Place.append_inj (finish.trans start.symm)]
          exact .stop a
      | more head tail ihTail =>
          subst start finish
          have reached : Spans (many body) _ (b.append more) := tail
          obtain ⟨m, rfl⟩ := exists_append_of_spans reached
          exact .more (ih head shortens) (ihTail rfl rfl)
  | textStart =>
      obtain ⟨start, same⟩ := spans
      exact ⟨start, Place.append_inj same⟩
  | wordEdge =>
      obtain ⟨edge, same⟩ := spans
      rw [beforeWord_append stop] at edge
      exact ⟨edge, Place.append_inj same⟩
  | textEnd =>
      obtain ⟨ends, same⟩ := spans
      refine ⟨?_, Place.append_inj same⟩
      rcases ends with ends | ends
      · exact .inl (List.append_eq_nil_iff.1 ends).1
      · exact (List.append_eq_singleton_iff.1 ends).imp And.left And.left
  | unlessNext body =>
      obtain ⟨never, same⟩ := spans
      exact ⟨fun m next => never _ (next.append stop shortens), Place.append_inj same⟩

theorem Spans.of_append {pattern : Pattern} {a b : Place}
    (spans : Spans pattern (a.append more) (b.append more)) (settled : pattern.settled = true) :
    Spans pattern a b :=
  spans.shorten stop (shortens_of_settled settled)

end

/-! ## Characters that are not read -/

/-- The pattern reads the character nowhere. -/
def avoids (x : Char) : Pattern → Bool
  | one accepts => !accepts x
  | both first second | either first second => first.avoids x && second.avoids x
  | many body => body.avoids x
  | nothing | textStart | textEnd | wordEdge | unlessNext _ => true

theorem Spans.exists_reads_of_avoids {pattern : Pattern} {a b : Place} (spans : Spans pattern a b)
    {x : Char} (avoids : pattern.avoids x = true) : ∃ stretch, x ∉ stretch ∧ Reads stretch a b := by
  induction pattern generalizing a b with
  | nothing => exact ⟨[], List.not_mem_nil, reads_nil_iff.2 spans⟩
  | one accepts =>
      obtain ⟨c, accepted, reads⟩ := spans_one_iff.1 spans
      refine ⟨[c], ?_, reads⟩
      rw [List.mem_singleton]
      rintro rfl
      rw [Pattern.avoids, accepted] at avoids
      cases avoids
  | both first second ihFirst ihSecond =>
      obtain ⟨avoidsFirst, avoidsSecond⟩ := Bool.and_eq_true_iff.1 avoids
      obtain ⟨m, left, right⟩ := spans
      obtain ⟨before, freeBefore, readsBefore⟩ := ihFirst left avoidsFirst
      obtain ⟨after, freeAfter, readsAfter⟩ := ihSecond right avoidsSecond
      exact ⟨before ++ after, List.not_mem_append freeBefore freeAfter,
        reads_append_iff.2 ⟨m, readsBefore, readsAfter⟩⟩
  | either first second ihFirst ihSecond =>
      obtain ⟨avoidsFirst, avoidsSecond⟩ := Bool.and_eq_true_iff.1 avoids
      exact spans.elim (ihFirst · avoidsFirst) (ihSecond · avoidsSecond)
  | many body ih =>
      rw [Spans] at spans
      induction spans with
      | stop => exact ⟨[], List.not_mem_nil, reads_nil_iff.2 rfl⟩
      | more head _ ihTail =>
          obtain ⟨before, freeBefore, readsBefore⟩ := ih head avoids
          obtain ⟨after, freeAfter, readsAfter⟩ := ihTail
          exact ⟨before ++ after, List.not_mem_append freeBefore freeAfter,
            reads_append_iff.2 ⟨_, readsBefore, readsAfter⟩⟩
  | textStart | textEnd | wordEdge | unlessNext =>
      exact ⟨[], List.not_mem_nil, reads_nil_iff.2 spans.2⟩

/-! ## Where a stretch ends -/

/-- The pattern covers the empty stretch only. -/
def still : Pattern → Bool
  | nothing | textStart | textEnd | wordEdge | unlessNext _ => true
  | one _ | both .. | either .. | many _ => false

/-- The pattern covers single characters only. -/
def single : Pattern → Bool
  | one _ => true
  | nothing | both .. | either .. | many _ | textStart | textEnd | wordEdge | unlessNext _ => false

theorem exists_eq_one_of_single {pattern : Pattern} (single : pattern.single = true) :
    ∃ accepts, pattern = one accepts := by
  cases pattern with
  | one accepts => exact ⟨accepts, rfl⟩
  | _ => cases single

/-- The last character of every stretch is visible. -/
def endsVisible : Pattern → Bool
  | one accepts => blankCharacters.all fun c => !accepts c
  | both first second => second.endsVisible || (second.still && first.endsVisible)
  | either first second => first.endsVisible && second.endsVisible
  | nothing | many _ | textStart | textEnd | wordEdge | unlessNext _ => false

theorem Spans.eq_of_still {pattern : Pattern} {a b : Place} (spans : Spans pattern a b)
    (still : pattern.still = true) : b = a := by
  cases pattern with
  | nothing => exact spans
  | textStart | textEnd | wordEdge | unlessNext => exact spans.2
  | one | both | either | many => cases still

theorem Spans.last_of_endsVisible {pattern : Pattern} {a b : Place} (spans : Spans pattern a b)
    (ends : pattern.endsVisible = true) : b.last.any isBlank = false := by
  induction pattern generalizing a b with
  | one accepts =>
      obtain ⟨c, rest, -, accepted, rfl⟩ := spans
      refine Bool.eq_false_iff.2 fun blank => ?_
      rw [refuses_of_isBlank ends blank] at accepted
      cases accepted
  | both first second ihFirst ihSecond =>
      obtain ⟨m, left, right⟩ := spans
      rcases Bool.or_eq_true_iff.1 ends with ends | ends
      · exact ihSecond right ends
      · obtain ⟨still, ends⟩ := Bool.and_eq_true_iff.1 ends
        rw [right.eq_of_still still]
        exact ihFirst left ends
  | either first second ihFirst ihSecond =>
      obtain ⟨endsFirst, endsSecond⟩ := Bool.and_eq_true_iff.1 ends
      exact spans.elim (ihFirst · endsFirst) (ihSecond · endsSecond)
  | nothing | many | textStart | textEnd | wordEdge | unlessNext => cases ends

/-! ## Places of a longer text -/

/-- A place of a longer text stands in its first part or behind it. -/
theorem mem_places_append_cons_iff {last : Option Char} {text more : Text} {d : Char} {place : Place} :
    place ∈ places last (text ++ d :: more) ↔
      (∃ a ∈ places last text, place = a.append (d :: more)) ∨ place ∈ places (some d) more := by
  induction text generalizing last with
  | nil => simp [places, Place.append]
  | cons c text ih =>
      rw [List.cons_append, places, List.mem_cons, ih, places]
      simp [Place.append, or_assoc]

theorem mem_places_cons_iff {last : Option Char} {c : Char} {text : Text} {place : Place} :
    place ∈ places last (c :: text) ↔ place = ⟨last, c :: text⟩ ∨ place ∈ places (some c) text :=
  List.mem_cons

/-- What is found in a text is found in a longer one. -/
theorem search_append {pattern : Pattern} (settled : pattern.settled = true) {text more : Text}
    (stop : more.head?.any isWord = false) (found : pattern.search text = true) :
    pattern.search (text ++ more) = true := by
  obtain ⟨a, here, b, spans⟩ := search_iff.1 found
  cases more with
  | nil => rwa [List.append_nil]
  | cons c more =>
      exact search_iff.2 ⟨_, mem_places_append_cons_iff.2 (.inl ⟨a, here, rfl⟩), _,
        spans.append stop settled⟩

/-! ## A blank and a sign -/

/-- The pattern goes on, and its stretches end before a blank and the sign. -/
structure StaysBefore (sign : Char) (pattern : Pattern) : Prop where
  settled : pattern.settled = true
  avoids : pattern.avoids sign = true
  demands : pattern.demandsVisible = true
  ends : pattern.endsVisible = true

instance (sign : Char) (pattern : Pattern) : Decidable (StaysBefore sign pattern) :=
  decidable_of_iff (pattern.settled = true ∧ pattern.avoids sign = true ∧
      pattern.demandsVisible = true ∧ pattern.endsVisible = true)
    ⟨fun ⟨settled, avoids, demands, ends⟩ => ⟨settled, avoids, demands, ends⟩,
      fun ⟨settled, avoids, demands, ends⟩ => ⟨settled, avoids, demands, ends⟩⟩

namespace StaysBefore

variable {sign : Char} {pattern : Pattern} {text behind : Text}

/-- A stretch that begins before the blank ends before it. -/
theorem exists_append (stays : StaysBefore sign pattern) {a b : Place}
    (spans : Spans pattern (a.append (' ' :: sign :: behind)) b) :
    a.rest ≠ [] ∧ ∃ m : Place, b = m.append (' ' :: sign :: behind) := by
  obtain ⟨stretch, free, reads⟩ := spans.exists_reads_of_avoids stays.avoids
  obtain ⟨other, whole, visible⟩ := spans.exists_stretch
  obtain rfl : stretch = other := List.append_cancel_right (reads.ahead.symm.trans whole)
  obtain ⟨c, inStretch, seen⟩ := visible stays.demands
  have ends := spans.last_of_endsVisible stays.ends
  rcases List.append_eq_append_iff.1 whole with ⟨across, longer, tail⟩ | ⟨rest, before, tail⟩
  · cases across with
    | nil =>
        rw [List.append_nil] at longer
        exact ⟨List.ne_nil_of_mem (longer ▸ inStretch), ⟨b.last, []⟩, Place.ext rfl tail.symm⟩
    | cons d across =>
        obtain ⟨rfl, next⟩ := List.cons.inj tail
        cases across with
        | nil =>
            rw [reads.last, longer, List.getLast?_concat, Option.some_or] at ends
            exact absurd ends (by decide)
        | cons e across =>
            obtain rfl := (List.cons.inj next).1
            exact absurd (by simp [longer]) free
  · exact ⟨List.ne_nil_of_mem (before ▸ List.mem_append_left _ inStretch), ⟨b.last, rest⟩,
      Place.ext rfl tail⟩

/-- The pattern is found before the blank or behind it. -/
theorem search_append_iff (stays : StaysBefore sign pattern) :
    pattern.search (text ++ ' ' :: sign :: behind) = true ↔
      pattern.search text = true ∨ pattern.search (' ' :: sign :: behind) = true := by
  constructor
  · intro found
    obtain ⟨a, here, b, spans⟩ := search_iff.1 found
    rcases mem_places_append_cons_iff.1 here with ⟨p, before, rfl⟩ | here
    · obtain ⟨-, m, rfl⟩ := stays.exists_append spans
      exact .inl (search_iff.2 ⟨p, before, m, spans.of_append rfl stays.settled⟩)
    · exact .inr (search_iff.2 ⟨a, mem_places_cons_iff.2 (.inr here), b, spans⟩)
  · rintro (found | found)
    · exact search_append stays.settled rfl found
    · obtain ⟨a, here, b, spans⟩ := search_iff.1 found
      rcases mem_places_cons_iff.1 here with rfl | here
      · have nothing := stays.exists_append (a := ⟨none, []⟩) spans
        exact absurd rfl nothing.1
      · exact search_iff.2 ⟨a, mem_places_append_cons_iff.2 (.inr here), b, spans⟩

/-- A pattern at the start is found in the text before the blank, or not at all. -/
theorem search_append_iff_of_anchored (stays : StaysBefore sign pattern)
    (anchored : Anchored pattern) :
    pattern.search (text ++ ' ' :: sign :: behind) = true ↔ pattern.search text = true := by
  rw [stays.search_append_iff, or_iff_left_iff_imp]
  intro found
  obtain ⟨b, spans⟩ := anchored.exists_of_search found
  exact absurd rfl (stays.exists_append (a := ⟨none, []⟩) spans).1

end StaysBefore

end Pattern

end PatchSurvey
