import Flowchart.Command.Arguments
import Flowchart.Command.File
import Flowchart.Command.LogLevel
import Flowchart.Command.Variables
import Flowchart.Example
import Flowchart.Report.Outline
import Flowchart.Report.Script
import Flowchart.Report.Trace

/-! # Carrying out commands

`interpret` reads the command line and `carryOut` does what it asks for, given the bytes of the
file it names.  Both are pure: what they have to print and the exit status are in the `Output`.
-/

namespace Flowchart.Command

/-- What the program prints, and its exit status. -/
structure Output where
  status : Nat
  out : Text := ""
  err : Text := ""
deriving DecidableEq

/-- The status after success. -/
def statusOk : Nat := 0

/-- The status if the flowchart does not pass. -/
def statusFailed : Nat := 1

/-- The status if the program cannot do what it is asked for. -/
def statusUsage : Nat := 2

/-- Why the program breaks off without a regular output. -/
inductive Crash where
  | limit (error : LimitError)
  | level (error : LevelError)
  /-- An assignment to a variable was left out. -/
  | missingAssignment
  /-- A list or an object in a file stands inside too many others. -/
  | tooDeep (shape : Json.Shape)
deriving DecidableEq

/-- The report on a program that breaks off. -/
def Crash.message : Crash → Text
  | .limit e => e.message
  | .level e => e.message
  | .missingAssignment => "'list' object has no attribute 'partition'"
  | .tooDeep shape => (Json.ReadError.tooDeep shape).message []

/-- Why a command cannot be carried out. -/
inductive InputError where
  | unknownExample (name : Text)
  | unreadable (file : Text) (error : FileError)
  | noSource
  | assignment (error : VariableError)

/-- The report on a command that cannot be carried out. -/
def InputError.message : InputError → Text
  | .unknownExample name =>
    "unknown example " ++ Text.quoted name ++ " (see 'flowchart examples')"
  | .unreadable file e => "cannot read " ++ file ++ ": " ++ e.message file
  | .noSource => "give a flowchart file or --example NAME"
  | .assignment e => e.message

/-! ## The flowchart of a command -/

/-- Where the flowchart of a command comes from. -/
inductive Source where
  | bundled (name : Text)
  | file (name : Text)
  | nowhere
deriving DecidableEq

/-- Where the flowchart comes from: an example goes before a file, and an empty name counts as
none. -/
def Settings.source (s : Settings) : Source :=
  match s.example?.filter (!·.isEmpty), s.file.filter (!·.isEmpty) with
  | some name, _ => .bundled name
  | none, some name => .file name
  | none, none => .nowhere

/-- The file that a command needs. -/
def Invocation.file? (i : Invocation) : Option Text :=
  match i.task.needsChart, i.settings.source with
  | true, .file name => some name
  | _, _ => none

/-- How the bytes of the file of a command are had. -/
abbrev Contents := Except AccessError (List UInt8)

/-- Why a command ends early. -/
inductive Failure where
  | input (error : InputError)
  | crash (error : Crash)

/-- The records of the flowchart of a command. -/
def Settings.records (s : Settings) (contents : Contents) : Except Failure Model.Records :=
  match s.source with
  | .nowhere => .error (.input .noSource)
  | .file name =>
    (loadFile s.labelsAsCode (checkName name contents)).mapError fun
      | .json _ (.tooDeep shape) => .crash (.tooDeep shape)
      | e => .input (.unreadable name e)
  | .bundled name =>
    match Example.find? name with
    | none => .error (.input (.unknownExample name))
    | some m =>
      match Model.load s.labelsAsCode m.toJson with
      | .ok records => .ok records
      | .error e => .error (.input (.unreadable name (.model e)))

/-- The flowchart of a command, and what happened while it was built. -/
def Settings.chart (s : Settings) (contents : Contents) :
    Except Failure (Chart × List Event) := do
  let records ← s.records contents
  let (chart, skipped) := Chart.buildWith records.nodes records.links
  let events := skipped.map fun r => Event.linkSkipped r.source r.target
  return (chart, events ++ [.chartLoaded chart.size chart.links.length])

/-! ## The commands -/

/-- What came of a command: the events, in order, and what it prints, or why it failed. -/
structure Performance where
  events : List Event := []
  answer : Except Failure Output

/-- A line of output. -/
def line (s : Text) : Text :=
  s ++ "\n"

/-- Prints a report that a numeral may keep from being written. -/
def report (status : Nat) (text : Except LimitError Text) : Except Failure Output :=
  match text with
  | .ok s => .ok { status, out := line s }
  | .error e => .error (.crash (.limit e))

/-- Lists the bundled examples. -/
def listExamples : Output :=
  { status := statusOk
    out := List.flatten <| Example.all.map fun m =>
      line (m.name ++ ": " ++ Numeral.text m.nodes.length ++ " nodes, " ++
        Numeral.text m.links.length ++ " links") }

/-- Lists the violations on a chart. -/
def validate (c : Chart) : Output :=
  match c.violations with
  | [] => { status := statusOk, out := line "Flowchart is valid." }
  | violations =>
    { status := statusFailed
      out := line "Flowchart is invalid:" ++
        List.flatten (violations.map fun v => line ("- " ++ v.message)) }

/-- Prints the result of a run. -/
def reportRun (r : RunResult) : Except Failure Output :=
  let status := if r.error.isNone then statusOk else statusFailed
  match r.path, r.error with
  | [], some e => .ok { status, out := line ("Error: " ++ e.message) }
  | _, _ => report status r.trace

/-- Reads assignments in order, up to one that was left out. -/
def readAssignments (items : List (Option Text)) : Except Failure Env :=
  match readVariables ((items.takeWhile Option.isSome).filterMap id) with
  | .error e => .error (.input (.assignment e))
  | .ok env => if items.contains none then .error (.crash .missingAssignment) else .ok env

/-- Runs a chart with variables from the command line. -/
def simulate (c : Chart) (items : List (Option Text)) : Performance :=
  match readAssignments items with
  | .error e => { answer := .error e }
  | .ok env =>
    let turn := c.simulate env
    match turn.answer with
    | .error (.limit e) => { events := turn.events, answer := .error (.crash (.limit e)) }
    | .error (.stop e) => { events := turn.events, answer := reportRun (.stopped turn.state e) }
    | .ok r => { events := turn.events, answer := reportRun r }

/-- Carries out a command on a chart. -/
def performOn (c : Chart) (task : Task) (s : Settings) : Performance :=
  match task with
  | .examples => { answer := .ok listExamples }
  | .validate => { answer := .ok (validate c) }
  | .ast => { answer := report statusOk c.outline }
  | .code => { answer := report statusOk c.script }
  | .simulate => simulate c s.assignments

/-- Carries out a command. -/
def perform (i : Invocation) (contents : Contents) : Performance :=
  if i.task.needsChart then
    match i.settings.chart contents with
    | .error e => { answer := .error e }
    | .ok (chart, events) =>
      let p := performOn chart i.task i.settings
      { p with events := events ++ p.events }
  else { answer := .ok listExamples }

/-! ## The program -/

/-- What the program is started with besides its arguments. -/
structure Surroundings where
  /-- The level of the log that the environment asks for. -/
  logLevel : Option Text
  /-- What stands for the time in the lines of the log. -/
  stamp : Text

/-- Carries out a command and writes the log in front of its report on errors. -/
def carryOut (w : Surroundings) (i : Invocation) (contents : Contents) : Except Crash Output :=
  match threshold i.settings.logLevel w.logLevel with
  | .error e => .error (.level e)
  | .ok least =>
    let p := perform i contents
    match p.answer, logLines w.stamp least p.events with
    | .error (.crash e), _ => .error e
    | _, .error e => .error (.limit e)
    | .error (.input e), .ok log =>
      .ok { status := statusUsage, err := log ++ line ("flowchart: error: " ++ e.message) }
    | .ok output, .ok log => .ok { output with err := log ++ output.err }

/-- What the program prints if the command line asks for help or makes no sense. -/
def Halt.output : Halt → Output
  | .help topic => { status := statusOk, out := topic.help }
  | .misuse topic problem =>
    { status := statusUsage
      err := topic.usage ++ line (topic.call ++ ": error: " ++ problem.message) }

/-- The whole program.  `read` gives the bytes of a file by its name. -/
def run (w : Surroundings) (read : Text → Contents) (argv : List Text) :
    Except Crash Output :=
  match readCommandLine argv with
  | .error halt => .ok halt.output
  | .ok i =>
    match i.file? with
    | some name => carryOut w i (read name)
    | none => carryOut w i (.error .missing)

end Flowchart.Command
