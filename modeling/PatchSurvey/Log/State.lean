import PatchSurvey.Log.Event
import PatchSurvey.Log.Printing

/-! # The state of a log

A log is set up once; later set-ups change nothing. Two pipelines lead into it:
structured entries, which pass a filter of their own before the renderer, and plain
messages of other libraries, which pass the root level on their way to the outlets.
Before the set-up every structured entry goes to the console, and there are no
outlets. -/

namespace PatchSurvey

/-- How the two pipelines of a log are set up. -/
structure LogSetup where
  /-- A set-up was asked for. -/
  configured : Bool
  /-- The renderer of structured entries. -/
  renderer : Renderer
  /-- The weight below which structured entries are dropped. -/
  wrapperLevel : Nat
  /-- The weight below which plain messages are dropped. -/
  rootLevel : Nat
  /-- Where plain messages go, each by its renderer. -/
  outlets : List Renderer
deriving DecidableEq, Repr

namespace LogSetup

/-- Nothing was set up. -/
def initial : LogSetup where
  configured := false
  renderer := .console
  wrapperLevel := 0
  rootLevel := LogLevel.warning.weight
  outlets := []

/-- The set-up for a level, a format and an environment. -/
def ofSettings (level format environment : Text) : LogSetup where
  configured := true
  renderer := .select format environment
  wrapperLevel := LogLevel.threshold level
  rootLevel := LogLevel.threshold level
  outlets := [.select format environment]

end LogSetup

/-- A log: its set-up, and the fields bound to every entry. -/
structure LogState where
  setup : LogSetup
  context : Dictionary Json

namespace LogState

/-- Nothing is set up and nothing is bound. -/
def initial : LogState :=
  ⟨.initial, []⟩

/-- Set the log up, unless that was done before. -/
def configure (level format environment : Text) (state : LogState) : LogState :=
  if state.setup.configured then state
  else { state with setup := .ofSettings level format environment }

/-- Bind fields to every later entry. -/
def bind (fields : Dictionary Json) (state : LogState) : LogState :=
  { state with context := Dictionary.putAll state.context fields }

/-- Drop the bound fields. -/
def clear (state : LogState) : LogState :=
  { state with context := [] }

/-- The fields of an entry at a time: its own win over bound ones; level and time are set last. -/
def entryFields (context : Dictionary Json) (time : Text) (entry : LogEntry) : Dictionary Json :=
  let own := Dictionary.put "event".toList (.string entry.message)
    (Dictionary.putAll context entry.fields)
  Dictionary.put "timestamp".toList (.string time)
    (Dictionary.put "level".toList (.string entry.level.name) own)

section

variable (render : Rendering) (time : Text)

/-- Print a structured entry, unless it weighs too little. -/
def print (entry : LogEntry) (state : LogState) : Printing Unit :=
  if state.setup.wrapperLevel ≤ entry.level.weight then
    match render state.setup.renderer (entryFields state.context time entry) with
    | .ok line => ⟨[line], .ok ()⟩
    | .error fault => ⟨[], .error fault⟩
  else return ()

/-- What a plain message of another library prints; no message is given where its template and
arguments do not fit. An outlet whose renderer fails prints nothing. -/
def printPlain (level : LogLevel) (message : Option Text) (state : LogState) : List Printed :=
  match message with
  | some message =>
      if state.setup.rootLevel ≤ level.weight then
        state.setup.outlets.filterMap fun renderer =>
          (render renderer (entryFields state.context time ⟨level, message, []⟩)).toOption
      else []
  | none => []

/-- Print the events of some work, up to the first whose rendering fails. -/
def printAll (state : LogState) : List Event → Printing Unit
  | [] => return ()
  | event :: events => do
      print render time event.entry state
      printAll state events

/-- Print the events on the way to a value. -/
def printLogged {α : Type} (logged : Logged α) (state : LogState) : Printing α := do
  printAll render time state logged.events
  return logged.value

end

end LogState

/-- An entry of a named component. -/
def LogEntry.ofComponent (component : Text) (level : LogLevel) (message : Text)
    (fields : Dictionary Json) : LogEntry :=
  ⟨level, message, Dictionary.putAll [("context_component".toList, .string component)] fields⟩

end PatchSurvey
