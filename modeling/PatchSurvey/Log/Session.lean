import PatchSurvey.Analysis.Batch
import PatchSurvey.Log.State

/-! # Sessions of a log

A session is a row of steps that share one log: setting it up, writing to it,
binding fields, and analyses whose events it prints. A renderer that fails at an
entry fails the step that logged it; only a file of a batch is skipped for that. -/

namespace PatchSurvey

namespace LogState

variable (render : Rendering) (time : Text) (aliases : Path.Aliases) (state : LogState)

/-- Analyze a patch and print the events. -/
def analyze (patch : PatchInput) (hint : Option Text) :
    Printing (Except AnalysisError Analysis) :=
  match Analysis.ofPatch aliases patch hint with
  | .ok logged => state.printLogged render time (logged.map .ok)
  | .error error => return .error error

/-- The outcome of a file of a batch, with its events printed. Where an event of its analysis
cannot be printed, the file is skipped. -/
def analyzeFile (file : FilePatch) : Printing (Except SkippedFile Analysis) :=
  let outcome := BatchReport.outcome aliases file
  let printing := state.printLogged render time outcome
  match outcome.value with
  | .ok _ => printing.handle fun fault => do
      state.print render time (Event.failed file.filename file.status).entry
      return .error ⟨file.filename, fault.reason, file.status⟩
  | .error _ => printing

/-- The report of some files, with the events printed. -/
def analyzeFiles (files : List FilePatch) : Printing BatchReport := do
  let report := BatchReport.ofOutcomes (← files.mapM (state.analyzeFile render time aliases))
  state.print render time
    (Event.batchFinished report.results.length report.skipped.length).entry
  return report

end LogState

/-- A step of a session. -/
inductive SessionStep where
  | configure (level format environment : Text)
  | log (component : Text) (level : LogLevel) (message : Text) (fields : Dictionary Json)
  /-- A message of another library, if its template and arguments give one. -/
  | plain (level : LogLevel) (message : Option Text)
  | bind (fields : Dictionary Json)
  | clear
  | analyze (patch : PatchInput) (hint : Option Text)
  | files (batch : List FilePatch)

/-- What a step gives back. -/
inductive StepValue where
  | nothing
  | analysis (analysis : Analysis)
  | failure (error : AnalysisError)
  | report (report : BatchReport)
  /-- An entry could not be printed. -/
  | unprinted (fault : RenderFault)

/-- What a step shows: its value, what it printed, and the log after it. -/
structure StepOutcome where
  value : StepValue
  printed : List Printed
  state : LogState

/-- The outcome of printing under a log. -/
def StepOutcome.ofPrinting {α : Type} (state : LogState) (printing : Printing α)
    (value : α → StepValue) : StepOutcome where
  value := match printing.result with
    | .ok result => value result
    | .error fault => .unprinted fault
  printed := printing.printed
  state

namespace SessionStep

/-- Take one step at a time. -/
def run (render : Rendering) (time : Text) (state : LogState) : SessionStep → StepOutcome
  | configure level format environment =>
      ⟨.nothing, [], state.configure level format environment⟩
  | log component level message fields =>
      .ofPrinting state (state.print render time (.ofComponent component level message fields))
        fun _ => .nothing
  | plain level message => ⟨.nothing, state.printPlain render time level message, state⟩
  | bind fields => ⟨.nothing, [], state.bind fields⟩
  | clear => ⟨.nothing, [], state.clear⟩
  | analyze patch hint =>
      .ofPrinting state (state.analyze render time Path.builtInAliases patch hint) fun
        | .ok analysis => .analysis analysis
        | .error error => .failure error
  | files batch =>
      .ofPrinting state (state.analyzeFiles render time Path.builtInAliases batch) .report

/-- Take steps one after the other. -/
def runAll (render : Rendering) (time : Text) : LogState → List SessionStep → List StepOutcome
  | _, [] => []
  | state, step :: rest =>
      let outcome := step.run render time state
      outcome :: runAll render time outcome.state rest

end SessionStep

end PatchSurvey
