import PatchSurvey.Proofs.Pattern.Extension

/-! # Blanks at the start of a text

Blanks before a text do not matter to a pattern that passes over them before it reads
anything else. If it asks for the start of the text, it does so only before them. Both can
be read off the shape of the pattern. -/

namespace PatchSurvey.Pattern

open Place Text

/-! ## Before a blank -/

/-- Behind no word and before a blank the pattern spans nothing. -/
def refusesBlank : Pattern → Bool
  | one accepts => blankCharacters.all fun c => !accepts c
  | both first second => first.refusesBlank || first.still && second.refusesBlank
  | either first second => first.refusesBlank && second.refusesBlank
  | wordEdge => true
  | nothing | many _ | textStart | textEnd | unlessNext _ => false

/-- Behind no word and before a blank the pattern may pass over the blank first. -/
def skipsBlank : Pattern → Bool
  | one accepts => (one accepts).refusesBlank
  | both first second => (both first second).refusesBlank || first.skipsBlank && second.skipsBlank
  | either first second => first.skipsBlank && second.skipsBlank
  | many body => body.single || body.skipsBlank
  | nothing | textEnd | wordEdge => true
  | textStart | unlessNext _ => false

section

variable {pattern : Pattern} {a b : Place} {d : Char} {text : Text} (ahead : a.rest = d :: text)
  (blank : isBlank d = true)
include ahead blank

theorem not_spans_one_of_isBlank {accepts : Char → Bool}
    (refuses : (one accepts).refusesBlank = true) : ¬ Spans (one accepts) a b := by
  rintro ⟨c, rest, next, accepted, -⟩
  obtain rfl : c = d := (List.cons.inj (next.symm.trans ahead)).1
  rw [refuses_of_isBlank refuses blank] at accepted
  cases accepted

variable (apart : a.afterWord = false)
include apart

theorem not_spans_of_refusesBlank (refuses : pattern.refusesBlank = true) :
    ¬ Spans pattern a b := by
  induction pattern generalizing b with
  | one accepts => exact not_spans_one_of_isBlank ahead blank refuses
  | both first second ihFirst ihSecond =>
      rintro ⟨m, left, right⟩
      rcases Bool.or_eq_true_iff.1 refuses with refuses | refuses
      · exact ihFirst refuses left
      · obtain ⟨still, refuses⟩ := Bool.and_eq_true_iff.1 refuses
        rw [left.eq_of_still still] at right
        exact ihSecond refuses right
  | either first second ihFirst ihSecond =>
      obtain ⟨refusesFirst, refusesSecond⟩ := Bool.and_eq_true_iff.1 refuses
      exact fun spans => spans.elim (ihFirst refusesFirst) (ihSecond refusesSecond)
  | wordEdge =>
      rintro ⟨edge, -⟩
      have next : a.beforeWord = isWord d := by
        rw [beforeWord, ahead, List.head?_cons, Option.any_some]
      exact edge (by rw [apart, next, not_isWord_of_isBlank blank])
  | nothing | many | textStart | textEnd | unlessNext => cases refuses

/-- The pattern may begin behind the blank instead. -/
theorem Spans.rejoins_of_skipsBlank (spans : Spans pattern a b) (skips : pattern.skipsBlank = true) :
    Rejoins pattern a ⟨some d, text⟩ b := by
  induction pattern generalizing b with
  | nothing => exact .inr ⟨spans, rfl⟩
  | one accepts => exact absurd spans (not_spans_one_of_isBlank ahead blank skips)
  | both first second ihFirst ihSecond =>
      rcases Bool.or_eq_true_iff.1 skips with refuses | skips
      · exact absurd spans (not_spans_of_refusesBlank ahead blank apart refuses)
      · obtain ⟨skipsFirst, skipsSecond⟩ := Bool.and_eq_true_iff.1 skips
        exact .both spans (fun _ head => ihFirst head skipsFirst) fun tail => ihSecond tail skipsSecond
  | either first second ihFirst ihSecond =>
      obtain ⟨skipsFirst, skipsSecond⟩ := Bool.and_eq_true_iff.1 skips
      exact .either spans (fun left => ihFirst left skipsFirst) fun right => ihSecond right skipsSecond
  | many body ih =>
      rcases Bool.or_eq_true_iff.1 skips with single | skips
      · obtain ⟨accepts, rfl⟩ := exists_eq_one_of_single single
        cases spans with
        | stop => exact .inr ⟨rfl, .stop _⟩
        | more head tail =>
            obtain ⟨c, rest, next, -, rfl⟩ := head
            obtain ⟨rfl, rfl⟩ := List.cons.inj (ahead.symm.trans next)
            exact .inl tail
      · exact .many spans fun _ head => ih head skips
  | textEnd =>
      obtain ⟨ends, rfl⟩ := spans
      rw [ahead] at ends
      have last : text = [] := by
        rcases ends with ends | ends
        · cases ends
        · exact (List.cons.inj ends).2
      exact .inr ⟨rfl, .inl last, rfl⟩
  | wordEdge => exact absurd spans (not_spans_of_refusesBlank ahead blank apart rfl)
  | textStart | unlessNext => cases skips

end

/-! ## Behind the start of the text -/

/-- What follows the start of the text in a pattern that begins with it. -/
def behindStart? : Pattern → Option Pattern
  | both textStart second => some second
  | both first second => (behindStart? first).map (both · second)
  | _ => none

/-- The pattern may read any blank before the rest. -/
def takesBlank : Pattern → Bool
  | many (one accepts) => blankCharacters.all accepts
  | both first _ => first.takesBlank
  | _ => false

theorem spans_iff_of_behindStart? {pattern rest : Pattern}
    (behind : pattern.behindStart? = some rest) {a b : Place} : Spans pattern a b ↔ a.last = none ∧ Spans rest a b := by
  fun_induction behindStart? pattern generalizing rest b with
  | case1 second =>
      obtain rfl := Option.some.inj behind
      constructor
      · rintro ⟨m, ⟨start, rfl⟩, spans⟩
        exact ⟨start, spans⟩
      · rintro ⟨start, spans⟩
        exact ⟨a, ⟨start, rfl⟩, spans⟩
  | case2 first second _ ih =>
      obtain ⟨inner, found, rfl⟩ := Option.map_eq_some_iff.1 behind
      simp only [Spans, ih found]
      constructor
      · rintro ⟨m, ⟨start, left⟩, right⟩
        exact ⟨start, m, left, right⟩
      · rintro ⟨start, m, left, right⟩
        exact ⟨m, ⟨start, left⟩, right⟩
  | case3 => cases behind

theorem search_iff_of_behindStart? {pattern rest : Pattern}
    (behind : pattern.behindStart? = some rest) {text : Text} :
    pattern.search text = true ↔ ∃ b, Spans rest ⟨none, text⟩ b := by
  have anchored : Anchored pattern :=
    fun _ _ spans => ((spans_iff_of_behindStart? behind).1 spans).1
  constructor
  · intro found
    obtain ⟨b, spans⟩ := anchored.exists_of_search found
    exact ⟨b, ((spans_iff_of_behindStart? behind).1 spans).2⟩
  · rintro ⟨b, spans⟩
    exact search_iff.2 ⟨_, mem_places_start none text, b,
      (spans_iff_of_behindStart? behind).2 ⟨rfl, spans⟩⟩

theorem Spans.before_of_takesBlank {pattern : Pattern} {b : Place} {last : Option Char} {d : Char}
    {text : Text} (spans : Spans pattern ⟨some d, text⟩ b) (takes : pattern.takesBlank = true)
    (blank : isBlank d = true) : Spans pattern ⟨last, d :: text⟩ b := by
  fun_induction takesBlank pattern generalizing b with
  | case1 accepts =>
      have accepted := List.all_eq_true.1 takes d (mem_blankCharacters_of_isBlank blank)
      exact .more ⟨d, text, rfl, accepted, rfl⟩ spans
  | case2 first second ih =>
      obtain ⟨m, left, right⟩ := spans
      exact ⟨m, ih left takes, right⟩
  | case3 => cases takes

/-! ## Before the text -/

/-- Blanks before a text do not matter to the pattern. -/
def ignoresIndent (pattern : Pattern) : Bool :=
  match pattern.behindStart? with
  | some rest => rest.startFree && rest.skipsBlank && rest.takesBlank
  | none => pattern.startFree && pattern.skipsBlank

/-- Only the first place of a text depends on what stands before it. -/
theorem mem_places_or {last : Option Char} {text : Text} {place : Place}
    (here : place ∈ places last text) (other : Option Char) :
    place = ⟨last, text⟩ ∨ place ∈ places other text := by
  cases text with
  | nil => exact .inl (List.mem_singleton.1 here)
  | cons c text => exact (List.mem_cons.1 here).imp_right (List.mem_cons_of_mem _)

/-- A blank behind which the text is ahead is like the start of the text. -/
theorem exists_spans_some_iff {pattern : Pattern} (free : pattern.startFree = true) {d : Char}
    (blank : isBlank d = true) {text : Text} :
    (∃ b, Spans pattern ⟨some d, text⟩ b) ↔ ∃ b, Spans pattern ⟨none, text⟩ b := by
  have transfer {a c : Place} (same : c.rest = a.rest) (apart : c.afterWord = a.afterWord) :
      (∃ b, Spans pattern a b) → ∃ b, Spans pattern c b := by
    rintro ⟨b, spans⟩
    exact (spans.rejoins same fun _ => ⟨free, apart⟩).exists_spans
  have apart : isWord d = false := not_isWord_of_isBlank blank
  exact ⟨transfer rfl apart.symm, transfer rfl apart⟩

theorem search_cons_of_ignoresIndent {pattern : Pattern} (ignores : pattern.ignoresIndent = true)
    {d : Char} (blank : isBlank d = true) (text : Text) :
    pattern.search (d :: text) = pattern.search text := by
  have behind {rest : Pattern} (skips : rest.skipsBlank = true)
      (spans : ∃ b, Spans rest ⟨none, d :: text⟩ b) : ∃ b, Spans rest ⟨some d, text⟩ b := by
    obtain ⟨b, spans⟩ := spans
    exact (spans.rejoins_of_skipsBlank rfl blank rfl skips).exists_spans
  rw [ignoresIndent] at ignores
  rw [Bool.eq_iff_iff]
  split at ignores
  · rename_i rest start
    simp only [Bool.and_eq_true] at ignores
    obtain ⟨⟨free, skips⟩, takes⟩ := ignores
    rw [search_iff_of_behindStart? start, search_iff_of_behindStart? start]
    constructor
    · exact fun spans => (exists_spans_some_iff free blank).1 (behind skips spans)
    · intro spans
      obtain ⟨b, spans⟩ := (exists_spans_some_iff free blank).2 spans
      exact ⟨b, spans.before_of_takesBlank takes blank⟩
  · obtain ⟨free, skips⟩ := Bool.and_eq_true_iff.1 ignores
    rw [search_iff, search_iff]
    constructor
    · rintro ⟨a, here, spans⟩
      have start (spans : ∃ b, Spans pattern ⟨some d, text⟩ b) :
          ∃ a ∈ places none text, ∃ b, Spans pattern a b :=
        ⟨_, mem_places_start none text, (exists_spans_some_iff free blank).1 spans⟩
      rcases mem_places_cons_iff.1 here with rfl | here
      · exact start (behind skips spans)
      · rcases mem_places_or here none with rfl | here
        · exact start spans
        · exact ⟨a, here, spans⟩
    · rintro ⟨a, here, spans⟩
      rcases mem_places_or here (some d) with rfl | here
      · exact ⟨_, mem_places_cons_iff.2 (.inr (mem_places_start (some d) text)),
          (exists_spans_some_iff free blank).2 spans⟩
      · exact ⟨a, mem_places_cons_iff.2 (.inr here), spans⟩

/-- Such a pattern is found in a text with any indentation, or with none. -/
theorem search_append_of_ignoresIndent {pattern : Pattern} (ignores : pattern.ignoresIndent = true)
    {indent : Text} (blank : ∀ c ∈ indent, isBlank c = true) (text : Text) :
    pattern.search (indent ++ text) = pattern.search text := by
  induction indent with
  | nil => rfl
  | cons d indent ih =>
      obtain ⟨first, others⟩ := List.forall_mem_cons.1 blank
      rw [List.cons_append, search_cons_of_ignoresIndent ignores first, ih others]

end PatchSurvey.Pattern
