import PatchSurvey.Log.Session

/-! # Printing without failures

An analysis whose events can be printed gives what it gives without a log, and prints the lines
of its events in order. So what is shown of reports holds of what a session gives back. -/

namespace PatchSurvey

namespace Printing

variable {α β : Type}

@[simp] theorem printed_pure (value : α) : (Pure.pure value : Printing α).printed = [] :=
  rfl

@[simp] theorem result_pure (value : α) : (Pure.pure value : Printing α).result = .ok value :=
  rfl

theorem bind_of_ok {first : Printing α} {value : α} (given : first.result = .ok value)
    (next : α → Printing β) :
    first >>= next = ⟨first.printed ++ (next value).printed, (next value).result⟩ := by
  change first.bind next = _
  rw [bind, given]

theorem bind_of_error {first : Printing α} {fault : RenderFault}
    (failed : first.result = .error fault) (next : α → Printing β) :
    first >>= next = ⟨first.printed, .error fault⟩ := by
  change first.bind next = _
  rw [bind, failed]

instance : LawfulMonad Printing := .mk' Printing
  (by
    rintro α ⟨printed, fault | value⟩
    · rfl
    · exact congrArg (Printing.mk · _) (List.append_nil printed))
  (by
    intro α β value next
    rfl)
  (by
    rintro α β γ ⟨printed, fault | value⟩ next last
    · rfl
    · cases given : (next value).result with
      | error fault => simp [bind_of_ok, bind_of_error, given]
      | ok value => simp [bind_of_ok, given, List.append_assoc])

/-- Steps without failures print one after the other. -/
theorem mapM_of_ok {steps : List α} {step : α → Printing β} {printed : α → List Printed}
    {value : α → β} (given : ∀ input ∈ steps, step input = ⟨printed input, .ok (value input)⟩) :
    steps.mapM step = ⟨steps.flatMap printed, .ok (steps.map value)⟩ := by
  induction steps with
  | nil => rfl
  | cons input steps ih =>
      obtain ⟨first, others⟩ := List.forall_mem_cons.1 given
      rw [List.mapM_cons, first, ih others, bind_of_ok rfl, bind_of_ok rfl]
      simp

end Printing

namespace LogState

variable {render : Rendering} {time : Text} {aliases : Path.Aliases} {state : LogState}

/-- The entry of an event is printed or dropped, without a failure. -/
def Renders (render : Rendering) (time : Text) (state : LogState) (event : Event) : Prop :=
  (state.print render time event.entry).result = .ok ()

/-- What an event prints. -/
def lines (render : Rendering) (time : Text) (state : LogState) (event : Event) : List Printed :=
  (state.print render time event.entry).printed

theorem printAll_of_renders {events : List Event}
    (renders : ∀ event ∈ events, state.Renders render time event) :
    state.printAll render time events = ⟨events.flatMap (state.lines render time), .ok ()⟩ := by
  induction events with
  | nil => rfl
  | cons event events ih =>
      obtain ⟨first, others⟩ := List.forall_mem_cons.1 renders
      rw [printAll, Printing.bind_of_ok first, ih others]
      rfl

/-- An entry whose rendering fails prints nothing. -/
theorem print_of_error {entry : LogEntry} {fault : RenderFault}
    (failed : (state.print render time entry).result = .error fault) :
    state.print render time entry = ⟨[], .error fault⟩ := by
  rw [print] at failed ⊢
  split
  · rename_i heavy
    rw [if_pos heavy] at failed
    cases rendered : render state.setup.renderer (entryFields state.context time entry) with
    | ok line =>
        rw [rendered] at failed
        cases failed
    | error other =>
        rw [rendered] at failed
        obtain rfl := Except.error.inj failed
        rfl
  · rename_i light
    rw [if_neg light] at failed
    cases failed

/-- The first event whose rendering fails ends the printing. -/
theorem printAll_of_error {before after : List Event} {event : Event} {fault : RenderFault}
    (renders : ∀ other ∈ before, state.Renders render time other)
    (failed : (state.print render time event.entry).result = .error fault) :
    state.printAll render time (before ++ event :: after) =
      ⟨before.flatMap (state.lines render time), .error fault⟩ := by
  induction before with
  | nil =>
      rw [List.nil_append, printAll, Printing.bind_of_error failed, print_of_error failed]
      rfl
  | cons first before ih =>
      obtain ⟨printed, others⟩ := List.forall_mem_cons.1 renders
      rw [List.cons_append, printAll, Printing.bind_of_ok printed, ih others]
      rfl

theorem printLogged_of_renders {α : Type} {logged : Logged α}
    (renders : ∀ event ∈ logged.events, state.Renders render time event) :
    state.printLogged render time logged =
      ⟨logged.events.flatMap (state.lines render time), .ok logged.value⟩ := by
  rw [printLogged, printAll_of_renders renders, Printing.bind_of_ok rfl]
  simp

/-- An analysis gives back what it gives without a log. -/
theorem analyze_of_renders {patch : PatchInput} {hint : Option Text} {logged : Logged Analysis}
    (analyzed : Analysis.ofPatch aliases patch hint = .ok logged)
    (renders : ∀ event ∈ logged.events, state.Renders render time event) :
    state.analyze render time aliases patch hint =
      ⟨logged.events.flatMap (state.lines render time), .ok (.ok logged.value)⟩ := by
  rw [analyze, analyzed]
  exact printLogged_of_renders renders

theorem analyzeFile_of_renders {file : FilePatch}
    (renders : ∀ event ∈ (BatchReport.outcome aliases file).events,
      state.Renders render time event) :
    state.analyzeFile render time aliases file =
      ⟨(BatchReport.outcome aliases file).events.flatMap (state.lines render time),
        .ok (BatchReport.outcome aliases file).value⟩ := by
  rw [analyzeFile, printLogged_of_renders renders]
  cases (BatchReport.outcome aliases file).value <;> rfl

/-- A file with an analysis is skipped if an event of the analysis cannot be printed. -/
theorem analyzeFile_of_error {file : FilePatch} {logged : Logged Analysis}
    {before after : List Event} {event : Event} {fault : RenderFault}
    (analyzed : Analysis.ofPatch aliases file.patch (some file.filename) = .ok logged)
    (whole : logged.events = before ++ event :: after)
    (renders : ∀ other ∈ before, state.Renders render time other)
    (failed : (state.print render time event.entry).result = .error fault)
    (told : state.Renders render time (.failed file.filename file.status)) :
    state.analyzeFile render time aliases file =
      ⟨before.flatMap (state.lines render time) ++
          state.lines render time (.failed file.filename file.status),
        .ok (.error ⟨file.filename, fault.reason, file.status⟩)⟩ := by
  have outcome : BatchReport.outcome aliases file = logged.map .ok := by
    rw [BatchReport.outcome, analyzed]
  have printing : state.printLogged render time (logged.map .ok : Logged (Except SkippedFile _)) =
      ⟨before.flatMap (state.lines render time), .error fault⟩ := by
    rw [printLogged, Logged.map, whole, printAll_of_error renders failed,
      Printing.bind_of_error rfl]
  rw [analyzeFile, outcome, printing]
  dsimp only [Logged.map, Printing.handle]
  rw [Printing.bind_of_ok told]
  simp [lines]

/-- A batch gives back the report that it gives without a log. -/
theorem analyzeFiles_of_renders {files : List FilePatch}
    (renders : ∀ event ∈ (BatchReport.ofFiles aliases files).events,
      state.Renders render time event) :
    state.analyzeFiles render time aliases files =
      ⟨(BatchReport.ofFiles aliases files).events.flatMap (state.lines render time),
        .ok (BatchReport.ofFiles aliases files).value⟩ := by
  have whole : (BatchReport.ofFiles aliases files).events =
      files.flatMap (fun file => (BatchReport.outcome aliases file).events) ++
        [.batchFinished (BatchReport.ofFiles aliases files).value.results.length
          (BatchReport.ofFiles aliases files).value.skipped.length] := by
    simp only [BatchReport.ofFiles, Logged.gather, List.flatMap_map]
  rw [whole] at renders ⊢
  obtain ⟨each, last⟩ := List.forall_mem_append.1 renders
  have outcomes := Printing.mapM_of_ok fun file mem =>
    analyzeFile_of_renders fun event logged => each event (List.mem_flatMap_of_mem mem logged)
  have report : BatchReport.ofOutcomes
      (files.map fun file => (BatchReport.outcome aliases file).value) =
        (BatchReport.ofFiles aliases files).value := by
    simp only [BatchReport.ofFiles, Logged.gather, List.map_map, Function.comp_def]
  rw [analyzeFiles, outcomes, Printing.bind_of_ok rfl, report,
    Printing.bind_of_ok (last _ (List.mem_singleton_self _))]
  simp [lines, List.flatMap_assoc]

end LogState

end PatchSurvey
