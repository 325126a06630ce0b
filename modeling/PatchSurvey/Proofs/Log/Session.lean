import PatchSurvey.Proofs.Log.Printing

/-! # A log is set up once

The first set-up of a session fixes renderer, filters and outlet for all steps behind it. Further
set-ups show nowhere. The two pipelines have a filter each, and both are set to one weight, so that
an entry of either is printed exactly if it weighs as much. -/

namespace PatchSurvey

/-- Both pipelines of a log that was set up filter alike, and the one outlet prints as structured
entries are printed. -/
structure LogSetup.Coherent (setup : LogSetup) : Prop where
  level : setup.configured = true → setup.rootLevel = setup.wrapperLevel
  outlets : setup.configured = true → setup.outlets = [setup.renderer]

theorem LogSetup.coherent_initial : LogSetup.initial.Coherent where
  level configured := by cases configured
  outlets configured := by cases configured

theorem LogSetup.coherent_ofSettings (level format environment : Text) :
    (LogSetup.ofSettings level format environment).Coherent where
  level _ := rfl
  outlets _ := rfl

namespace LogState

variable {render : Rendering} {time : Text} {state : LogState}

/-- What a structured entry prints. -/
theorem printed_print (entry : LogEntry) :
    (state.print render time entry).printed =
      if state.setup.wrapperLevel ≤ entry.level.weight then
        (render state.setup.renderer (entryFields state.context time entry)).toOption.toList
      else [] := by
  rw [print]
  split
  · cases render state.setup.renderer (entryFields state.context time entry) <;> rfl
  · rfl

/-- What a plain message prints, by the filter and the renderer of structured entries. -/
theorem printPlain_eq (configured : state.setup.configured = true)
    (coherent : state.setup.Coherent) (level : LogLevel) (message : Text) :
    state.printPlain render time level (some message) =
      if state.setup.wrapperLevel ≤ level.weight then
        (render state.setup.renderer
          (entryFields state.context time ⟨level, message, []⟩)).toOption.toList
      else [] := by
  rw [printPlain, coherent.level configured, coherent.outlets configured]
  split
  · cases rendered : render state.setup.renderer
        (entryFields state.context time ⟨level, message, []⟩) <;>
      simp [rendered, Except.toOption]
  · rfl

end LogState

namespace SessionStep

/-- The set-up that a step asks for; only one kind of step does. -/
def setup? : SessionStep → Option LogSetup
  | configure level format environment => some (.ofSettings level format environment)
  | _ => none

/-- The step logs one entry: a structured one, or a plain message whose arguments fit. -/
inductive Logs : SessionStep → LogEntry → Prop
  | log (component : Text) (level : LogLevel) (message : Text) (fields : Dictionary Json) :
      Logs (.log component level message fields) (.ofComponent component level message fields)
  | plain (level : LogLevel) (message : Text) :
      Logs (.plain level (some message)) ⟨level, message, []⟩

variable {render : Rendering} {time : Text} {state : LogState}

/-- The log after some steps. -/
def after (render : Rendering) (time : Text) : LogState → List SessionStep → LogState
  | state, [] => state
  | state, step :: rest => after render time (step.run render time state).state rest

/-! ## One step -/

/-- What a step does to the set-up: nothing, unless there is none and it asks for one. -/
theorem setup_run (step : SessionStep) :
    (step.run render time state).state.setup =
      if state.setup.configured then state.setup else step.setup?.getD state.setup := by
  have same : state.setup =
      if state.setup.configured then state.setup else (none : Option LogSetup).getD state.setup :=
    (ite_self _).symm
  cases step with
  | configure level format environment =>
      rw [run, LogState.configure]
      split <;> rfl
  | _ => exact same

theorem coherent_of_setup? {step : SessionStep} {setup : LogSetup}
    (asked : step.setup? = some setup) : setup.Coherent := by
  cases step with
  | configure level format environment =>
      obtain rfl := Option.some.inj asked
      exact LogSetup.coherent_ofSettings level format environment
  | _ => cases asked

/-- No step sets one pipeline up without the other. -/
theorem coherent_run (render : Rendering) (time : Text) (coherent : state.setup.Coherent)
    (step : SessionStep) : (step.run render time state).state.setup.Coherent := by
  rw [setup_run]
  split
  · exact coherent
  · cases asked : step.setup? with
    | none => exact coherent
    | some setup => exact coherent_of_setup? asked

/-- A step keeps the set-up of a log that was set up. -/
theorem setup_run_of_configured (render : Rendering) (time : Text)
    (configured : state.setup.configured = true) (step : SessionStep) :
    (step.run render time state).state.setup = state.setup := by
  rw [setup_run, if_pos configured]

/-- A further set-up leaves the log as it is. -/
theorem state_run_of_configured (configured : state.setup.configured = true)
    {step : SessionStep} {setup : LogSetup} (asked : step.setup? = some setup) :
    (step.run render time state).state = state := by
  cases step with
  | configure level format environment => rw [run, LogState.configure, if_pos configured]
  | _ => cases asked

namespace Logs

variable {step : SessionStep} {entry : LogEntry}

theorem state_run (logs : Logs step entry) : (step.run render time state).state = state := by
  cases logs <;> rfl

/-- Either pipeline prints the line of an entry that weighs enough, if the renderer gives one. -/
theorem printed_run (logs : Logs step entry) (configured : state.setup.configured = true)
    (coherent : state.setup.Coherent) :
    (step.run render time state).printed =
      if state.setup.wrapperLevel ≤ entry.level.weight then
        (render state.setup.renderer
          (LogState.entryFields state.context time entry)).toOption.toList
      else [] := by
  cases logs with
  | log component level message fields => exact LogState.printed_print _
  | plain level message => exact LogState.printPlain_eq configured coherent level message

end Logs

/-! ## Many steps -/

theorem runAll_append (state : LogState) (steps more : List SessionStep) :
    runAll render time state (steps ++ more) =
      runAll render time state steps ++
        runAll render time (after render time state steps) more := by
  induction steps generalizing state with
  | nil => rfl
  | cons step steps ih =>
      rw [List.cons_append, runAll, runAll, ih]
      rfl

theorem length_runAll (state : LogState) (steps : List SessionStep) :
    (runAll render time state steps).length = steps.length := by
  induction steps generalizing state with
  | nil => rfl
  | cons step steps ih => rw [runAll, List.length_cons, ih, List.length_cons]

/-- What every step keeps of the set-up holds all through a session and behind it. -/
theorem setup_of_runAll (kept : LogSetup → Prop) {steps : List SessionStep}
    (start : kept state.setup)
    (step : ∀ step ∈ steps, ∀ state : LogState, kept state.setup →
      kept (step.run render time state).state.setup) :
    (∀ outcome ∈ runAll render time state steps, kept outcome.state.setup) ∧
      kept (after render time state steps).setup := by
  induction steps generalizing state with
  | nil => exact ⟨List.forall_mem_nil _, start⟩
  | cons first steps ih =>
      obtain ⟨now, later⟩ := List.forall_mem_cons.1 step
      have next := now state start
      obtain ⟨all, last⟩ := ih next later
      exact ⟨List.forall_mem_cons.2 ⟨next, all⟩, last⟩

/-- The two pipelines filter alike all through a session. -/
theorem coherent_runAll (render : Rendering) (time : Text) (steps : List SessionStep) :
    (∀ outcome ∈ runAll render time .initial steps, outcome.state.setup.Coherent) ∧
      (after render time .initial steps).setup.Coherent :=
  setup_of_runAll LogSetup.Coherent LogSetup.coherent_initial fun step _ _ coherent =>
    coherent_run render time coherent step

/-- Without a step that asks for a set-up there is none. -/
theorem setup_of_unasked (render : Rendering) (time : Text) (state : LogState)
    {steps : List SessionStep}
    (unasked : ∀ step ∈ steps, step.setup? = none) :
    (∀ outcome ∈ runAll render time state steps, outcome.state.setup = state.setup) ∧
      (after render time state steps).setup = state.setup := by
  refine setup_of_runAll (· = state.setup) rfl fun step mem other same => ?_
  rw [setup_run, unasked step mem, Option.getD_none, ite_self, same]

/-- A set-up lasts. -/
theorem setup_of_configured (configured : state.setup.configured = true)
    (steps : List SessionStep) :
    ∀ outcome ∈ runAll render time state steps, outcome.state.setup = state.setup := by
  refine (setup_of_runAll (· = state.setup) rfl fun step _ other same => ?_).1
  rw [setup_run_of_configured render time (same ▸ configured), same]

/-- Once a log was set up, steps that ask for a set-up can be left out. -/
theorem runAll_filter_of_configured (configured : state.setup.configured = true)
    (steps : List SessionStep) :
    runAll render time state (steps.filter (·.setup?.isNone)) =
      ((steps.zip (runAll render time state steps)).filter (·.1.setup?.isNone)).map (·.2) := by
  induction steps generalizing state with
  | nil => rfl
  | cons step steps ih =>
      rw [runAll, List.zip_cons_cons]
      cases asked : step.setup? with
      | none =>
          have next : (step.run render time state).state.setup.configured = true := by
            rw [setup_run_of_configured render time configured, configured]
          rw [List.filter_cons_of_pos (by simp [asked]), List.filter_cons_of_pos (by simp [asked]),
            List.map_cons, runAll, ih next]
      | some other =>
          rw [List.filter_cons_of_neg (by simp [asked]), List.filter_cons_of_neg (by simp [asked]),
            state_run_of_configured configured asked]
          exact ih configured

/-- Every entry behind a set-up is printed by the set-up and the fields that are bound then. -/
theorem printed_of_mem_zip (configured : state.setup.configured = true)
    (coherent : state.setup.Coherent) {steps : List SessionStep} {step : SessionStep}
    {outcome : StepOutcome} (mem : (step, outcome) ∈ steps.zip (runAll render time state steps))
    {entry : LogEntry} (logs : Logs step entry) :
    outcome.printed =
      if state.setup.wrapperLevel ≤ entry.level.weight then
        (render state.setup.renderer
          (LogState.entryFields outcome.state.context time entry)).toOption.toList
      else [] := by
  induction steps generalizing state with
  | nil => cases mem
  | cons first steps ih =>
      rw [runAll, List.zip_cons_cons] at mem
      obtain same | mem := List.mem_cons.1 mem
      · obtain ⟨rfl, rfl⟩ := Prod.mk.inj same
        rw [logs.printed_run configured coherent, logs.state_run]
      · have kept := setup_run_of_configured render time configured first
        rw [ih (kept ▸ configured) (kept ▸ coherent) mem, kept]

/-! ## Whole sessions -/

/-- The first set-up of a session fixes renderer, outlet and both filters for good: later ones
change nothing and can be left out. An entry of either pipeline that the renderer can print is
printed exactly if it weighs at least the threshold, and one that it cannot is not. -/
theorem first_configure_lasts (render : Rendering) (time : Text) {before : List SessionStep}
    (unasked : ∀ step ∈ before, step.setup? = none) (level format environment : Text)
    (rest : List SessionStep) :
    ∃ early outcome late,
      runAll render time .initial (before ++ configure level format environment :: rest) =
          early ++ outcome :: late ∧
        early.length = before.length ∧
        (∀ other ∈ early, other.state.setup = .initial) ∧
        (∀ other ∈ outcome :: late,
          other.state.setup.rootLevel = LogLevel.threshold level ∧
            other.state.setup.wrapperLevel = LogLevel.threshold level ∧
            other.state.setup.renderer = .select format environment ∧
            other.state.setup.outlets = [.select format environment]) ∧
        runAll render time .initial
            (before ++ configure level format environment :: rest.filter (·.setup?.isNone)) =
          early ++ outcome :: ((rest.zip late).filter (·.1.setup?.isNone)).map (·.2) ∧
        ∀ step other, (step, other) ∈ rest.zip late → ∀ entry, Logs step entry →
          let rendered := render (.select format environment)
            (LogState.entryFields other.state.context time entry)
          (∀ line, rendered = .ok line →
            other.printed = if LogLevel.threshold level ≤ entry.level.weight then [line] else []) ∧
          ∀ fault, rendered = .error fault → other.printed = [] := by
  obtain ⟨bare, unset⟩ := setup_of_unasked render time .initial unasked
  have asked : ((configure level format environment).run render time
      (after render time .initial before)).state.setup =
        .ofSettings level format environment := by
    rw [setup_run, unset]
    rfl
  have configured : ((configure level format environment).run render time
      (after render time .initial before)).state.setup.configured = true := by
    rw [asked]
    rfl
  refine ⟨runAll render time .initial before, _, _, runAll_append .., length_runAll .., bare,
    ?_, ?_, ?_⟩
  · intro other mem
    have same : other.state.setup = .ofSettings level format environment := by
      obtain rfl | mem := List.mem_cons.1 mem
      · exact asked
      · rw [setup_of_configured configured _ other mem, asked]
    rw [same]
    exact ⟨rfl, rfl, rfl, rfl⟩
  · rw [runAll_append, runAll, runAll_filter_of_configured configured]
  · intro step other mem entry logs
    have coherent := coherent_run render time (coherent_runAll render time before).2
      (configure level format environment)
    have printed := printed_of_mem_zip configured coherent mem logs
    rw [asked] at printed
    constructor
    · intro line rendered
      rw [printed, LogSetup.ofSettings]
      dsimp only
      rw [rendered]
      rfl
    · intro fault failed
      rw [printed, LogSetup.ofSettings]
      dsimp only
      rw [failed]
      exact ite_self _

/-- A dropped and a printed entry of each pipeline, before them a second set-up. -/
def warningSteps : List SessionStep :=
  [configure "DEBUG".toList "json".toList [], log [] .info [] [], plain .info (some []),
    log [] .error [] [], plain .error (some [])]

/-- An entry before the first set-up is printed. Behind it the second set-up shows nowhere, and the
session is the same without it. -/
theorem first_configure_lasts_warning :
    ∃ early outcome late,
      runAll Renderer.render [] .initial
          ([log [] .info [] []] ++ configure "warning".toList [] [] :: warningSteps) =
            early ++ outcome :: late ∧
        early.map (·.printed) = [[.console]] ∧
        (∀ other ∈ outcome :: late, other.state.setup.rootLevel = 30 ∧
          other.state.setup.wrapperLevel = 30 ∧ other.state.setup.outlets = [.console]) ∧
        late.map (·.printed) = [[], [], [], [.console], [.console]] ∧
        runAll Renderer.render [] .initial
            ([log [] .info [] []] ++ configure "warning".toList [] [] :: warningSteps.tail) =
          early ++ outcome :: late.tail := by
  have unasked : ∀ step ∈ [log [] .info [] []], step.setup? = none :=
    List.forall_mem_singleton.2 rfl
  obtain ⟨early, outcome, late, whole, size, -, lasts, without, -⟩ :=
    first_configure_lasts Renderer.render [] unasked "warning".toList [] [] warningSteps
  obtain ⟨first, rfl⟩ := List.length_eq_one_iff.1 size
  obtain ⟨rfl, rest⟩ := List.cons.inj whole
  obtain ⟨rfl, rfl⟩ := List.cons.inj rest
  refine ⟨_, _, _, whole, rfl, fun other mem => ?_, rfl, without⟩
  obtain ⟨root, wrapper, -, outlets⟩ := lasts other mem
  exact ⟨root, wrapper, outlets⟩

/-- Of entries of one level that is heavy enough, a structured one is printed, a plain message whose
arguments do not fit is dropped, and so is an entry with an integer of too many digits. -/
theorem printed_misfit :
    let state := LogState.initial.configure "INFO".toList [] "local".toList
    let printed (step : SessionStep) := (step.run Renderer.render [] state).printed
    LogLevel.threshold "INFO".toList ≤ LogLevel.error.weight ∧
      printed (log "lib".toList .error "%d".toList []) = [.console] ∧
      printed (plain .error none) = [] ∧
      printed (log "lib".toList .error [] [(['n'], .integer (.ofNat (Nat.pow 10 4300)))]) = [] := by
  intro state printed
  exact ⟨by decide, rfl, rfl, List.isEmpty_iff.1 (by decide +kernel)⟩

end SessionStep

end PatchSurvey
