import PatchSurvey.Pattern.Basic

/-! # Searching a text for a pattern

The search tries every place of a text. `run_iff` says that a run from one place
succeeds exactly if the pattern covers a stretch that begins there and ends at a
place with the wanted property; `search_iff` says the same of a whole text. -/

namespace PatchSurvey

namespace Pattern

/-- Take up to `fuel` steps, the longest ways first, until the goal is met. -/
def repeated (step : (Place → Bool) → Place → Bool) : Nat → (Place → Bool) → Place → Bool
  | 0, goal, place => goal place
  | fuel + 1, goal, place => step (repeated step fuel goal) place || goal place

/-- The pattern covers a stretch from the place to one that meets the goal. The fuel bounds
repetitions; the length of the text ahead is enough. -/
def run (fuel : Nat) : Pattern → (Place → Bool) → Place → Bool
  | nothing, goal, place => goal place
  | one accepts, goal, place =>
      match place.rest with
      | c :: rest => accepts c && goal ⟨some c, rest⟩
      | [] => false
  | both first second, goal, place => run fuel first (run fuel second goal) place
  | either first second, goal, place => run fuel first goal place || run fuel second goal place
  | many body, goal, place => repeated (run fuel body) fuel goal place
  | textStart, goal, place => place.last.isNone && goal place
  | textEnd, goal, place => (place.rest = [] || place.rest = ['\n']) && goal place
  | wordEdge, goal, place => place.afterWord != place.beforeWord && goal place
  | unlessNext body, goal, place => !run fuel body (fun _ => true) place && goal place

/-- The places of a text, the end included, given the character before it. -/
def places : Option Char → Text → List Place
  | last, [] => [⟨last, []⟩]
  | last, c :: rest => ⟨last, c :: rest⟩ :: places (some c) rest

/-- The pattern covers some stretch of the text. -/
def search (pattern : Pattern) (text : Text) : Bool :=
  (places none text).any (run text.length pattern fun _ => true)

/-! ## A search finds exactly the stretches of the pattern -/

/-- A stretch leads onwards: it ends where it began or leaves less of the text ahead. -/
theorem Spans.forward {pattern : Pattern} {a b : Place} (h : Spans pattern a b) :
    b = a ∨ b.rest.length < a.rest.length := by
  induction pattern generalizing a b with
  | nothing => exact .inl h
  | one accepts =>
      obtain ⟨c, rest, ahead, _, rfl⟩ := h
      exact .inr (by simp [ahead])
  | both first second ihFirst ihSecond =>
      obtain ⟨m, left, right⟩ := h
      rcases ihFirst left with rfl | _ <;> rcases ihSecond right with rfl | _ <;>
        first | exact .inl rfl | (right; omega)
  | either first second ihFirst ihSecond =>
      exact h.elim ihFirst ihSecond
  | many body ih =>
      rw [Spans] at h
      induction h with
      | stop => exact .inl rfl
      | more head _ ihTail =>
          rcases ih head with rfl | _
          · exact ihTail
          · rcases ihTail with rfl | _
            · right; assumption
            · right; omega
  | textStart | textEnd | wordEdge | unlessNext => exact .inl h.2

theorem Spans.length_le {pattern : Pattern} {a b : Place} (h : Spans pattern a b) :
    b.rest.length ≤ a.rest.length := by
  rcases h.forward with rfl | _ <;> omega

/-- Repeated steps reach what a chain of stretches reaches. -/
theorem repeated_iff {body : Pattern} {fuel : Nat} {step : (Place → Bool) → Place → Bool}
    (meaning : ∀ goal place, place.rest.length ≤ fuel →
      (step goal place = true ↔ ∃ m, Spans body place m ∧ goal m = true))
    {rounds : Nat} {goal : Place → Bool} {place : Place} (small : place.rest.length ≤ fuel)
    (enough : place.rest.length ≤ rounds) :
    repeated step rounds goal place = true ↔
      ∃ m, Chain (Spans body) place m ∧ goal m = true := by
  constructor
  · clear enough
    intro found
    induction rounds generalizing place with
    | zero => exact ⟨place, .stop _, found⟩
    | succ rounds ih =>
        rw [repeated, Bool.or_eq_true, meaning _ _ small] at found
        rcases found with ⟨m, head, found⟩ | found
        · obtain ⟨e, tail, met⟩ := ih (Nat.le_trans head.length_le small) found
          exact ⟨e, .more head tail, met⟩
        · exact ⟨place, .stop _, found⟩
  · rintro ⟨e, chain, met⟩
    induction chain generalizing rounds with
    | stop => cases rounds <;> simp [repeated, met]
    | more head _ ih =>
        rcases head.forward with rfl | less
        · exact ih small enough met
        · cases rounds with
          | zero => omega
          | succ rounds =>
              rw [repeated, Bool.or_eq_true, meaning _ _ small]
              exact .inl ⟨_, head, ih (by omega) (by omega) met⟩

/-- A run succeeds exactly if a stretch of the pattern reaches the goal. -/
theorem run_iff {fuel : Nat} {pattern : Pattern} {goal : Place → Bool} {place : Place}
    (enough : place.rest.length ≤ fuel) :
    run fuel pattern goal place = true ↔ ∃ m, Spans pattern place m ∧ goal m = true := by
  induction pattern generalizing goal place with
  | nothing => simp [run, Spans]
  | one accepts =>
      rw [run]
      split
      · rename_i c rest ahead
        simp only [Spans, ahead, List.cons.injEq, Bool.and_eq_true]
        constructor
        · rintro ⟨ok, met⟩
          exact ⟨_, ⟨c, rest, ⟨rfl, rfl⟩, ok, rfl⟩, met⟩
        · rintro ⟨_, ⟨_, _, ⟨rfl, rfl⟩, ok, rfl⟩, met⟩
          exact ⟨ok, met⟩
      · rename_i ahead
        simp [Spans, ahead]
  | both first second ihFirst ihSecond =>
      rw [run, ihFirst enough]
      constructor
      · rintro ⟨m, left, found⟩
        obtain ⟨e, right, met⟩ := (ihSecond (Nat.le_trans left.length_le enough)).1 found
        exact ⟨e, ⟨m, left, right⟩, met⟩
      · rintro ⟨e, ⟨m, left, right⟩, met⟩
        exact ⟨m, left, (ihSecond (Nat.le_trans left.length_le enough)).2 ⟨e, right, met⟩⟩
  | either first second ihFirst ihSecond =>
      rw [run, Bool.or_eq_true, ihFirst enough, ihSecond enough]
      simp only [Spans, or_and_right, exists_or]
  | many body ih =>
      rw [run, repeated_iff (fun _ _ small => ih small) enough enough]
      rfl
  | textStart => simp [run, Spans, and_assoc]
  | textEnd => simp [run, Spans, and_assoc]
  | wordEdge => simp [run, Spans, and_assoc]
  | unlessNext body ih =>
      have none : run fuel body (fun _ => true) place = false ↔ ∀ m, ¬ Spans body place m := by
        rw [← Bool.not_eq_true, ih enough]
        simp
      simp [run, Spans, none, and_assoc]

theorem length_le_of_mem_places {last : Option Char} {text : Text} {place : Place}
    (h : place ∈ places last text) : place.rest.length ≤ text.length := by
  induction text generalizing last with
  | nil => simp_all [places]
  | cons c text ih =>
      rcases List.mem_cons.1 h with rfl | h
      · simp
      · have := ih h
        simp; omega

/-- A search succeeds exactly if the pattern covers a stretch of the text. -/
theorem search_iff {pattern : Pattern} {text : Text} :
    search pattern text = true ↔ ∃ a ∈ places none text, ∃ b, Spans pattern a b := by
  simp only [search, List.any_eq_true]
  constructor
  · rintro ⟨a, here, found⟩
    obtain ⟨b, spans, _⟩ := (run_iff (length_le_of_mem_places here)).1 found
    exact ⟨a, here, b, spans⟩
  · rintro ⟨a, here, b, spans⟩
    exact ⟨a, here, (run_iff (length_le_of_mem_places here)).2 ⟨b, spans, rfl⟩⟩

end Pattern

end PatchSurvey
