import Flowchart.Command.Usage
import Flowchart.Text.Digit
import Flowchart.Text.Quoted

/-! # Reading the command line

The command line is read in two rounds: the options of the program, the command, and then all
that follows with the options of the command.  A long option may be cut short as long as only one
option begins so, and a value may be given behind an equals sign.  After `--` nothing is an
option; as a value behind an equals sign, `--` means that there is none.  Arguments that fit
nowhere are reported at the end.
-/

namespace Flowchart.Command

/-- What is wrong with a command line. -/
inductive Problem where
  /-- Several options begin like the argument. -/
  | ambiguous (argument : Text) (options : List Text)
  | missingValue (flag : Flag)
  /-- A value was given to an option that takes none. -/
  | ignoredValue (flag : Flag) (value : Text)
  | missingCommand
  | unknownCommand (name : Text)
  | unrecognized (arguments : List Text)
deriving DecidableEq

/-- The report on a command line. -/
def Problem.message : Problem → Text
  | .ambiguous argument options =>
    "ambiguous option: " ++ argument ++ " could match " ++ Text.joinWith ", " options
  | .missingValue flag => "argument " ++ flag.title ++ ": expected one argument"
  | .ignoredValue flag value =>
    "argument " ++ flag.title ++ ": ignored explicit argument " ++ Text.quoted value
  | .missingCommand => "the following arguments are required: command"
  | .unknownCommand name =>
    "argument command: invalid choice: " ++ Text.quoted name ++ " (choose from " ++
      Text.joinWith ", " (Task.all.map fun t => Text.quoted t.name) ++ ")"
  | .unrecognized arguments => "unrecognized arguments: " ++ Text.joinWith " " arguments

/-! ## Arguments -/

/-- What an argument is taken for. -/
inductive Reading where
  | plain
  /-- The argument `--`. -/
  | separator
  /-- An option that is spelled by one letter or by a word, and the value that stands in one
  argument with it. -/
  | option (flag : Flag) (byLetter : Bool) (attached : Option Text)
  | unknownOption
deriving DecidableEq

/-- An argument and what it is taken for. -/
structure Argument where
  spelling : Text
  reading : Reading
deriving DecidableEq

/-- Splits a text at the first equals sign. -/
def splitEquals (cs : Text) : Text × Option Text :=
  match cs.dropWhile (· ≠ .scalar '=') with
  | [] => (cs, none)
  | _ :: value => (cs.takeWhile (· ≠ .scalar '='), some value)

/-- Whether a spelling is one letter behind a single dash. -/
def isLetter : Text → Bool
  | .scalar '-' :: .scalar '-' :: _ => false
  | _ => true

/-- The options that an argument may be meant for, with their spellings. -/
def candidates (t : Topic) (cs : Text) : List (Text × Reading) :=
  match cs with
  | .scalar '-' :: .scalar '-' :: _ =>
    let (start, attached) := splitEquals cs
    t.spellings.filterMap fun (s, f) =>
      if start.isPrefixOf s then some (s, .option f (isLetter s) attached) else none
  | _ =>
    t.spellings.filterMap fun (s, f) =>
      if s = cs.take 2 then some (s, .option f true (some (cs.drop 2)))
      else if cs.isPrefixOf s then some (s, .option f (isLetter s) none)
      else none

/-- Whether a text is a negative number, which is never an option.  A line end behind the number
does not matter. -/
def isNegativeNumber (cs : Text) : Bool :=
  match cs with
  | .scalar '-' :: rest =>
    let rest := if rest.getLast? = some '\n' then rest.dropLast else rest
    match rest.dropWhile Text.isDigit with
    | [] => !rest.isEmpty
    | .scalar '.' :: ds => !ds.isEmpty && ds.all Text.isDigit
    | _ => false
  | _ => false

/-- What an argument that starts with a dash is taken for. -/
def readDashed (t : Topic) (s : Text) : Except Problem Reading :=
  let (start, attached) := splitEquals s
  match t.spellings.lookup s, s, t.spellings.lookup start, attached with
  | some f, _, _, _ => .ok (.option f (isLetter s) none)
  | none, [_], _, _ => .ok .plain
  | none, _, some f, some value => .ok (.option f (isLetter start) (some value))
  | none, _, _, _ =>
    match candidates t s with
    | [(_, reading)] => .ok reading
    | [] =>
      if isNegativeNumber s || s.contains ' ' then .ok .plain else .ok .unknownOption
    | several => .error (.ambiguous s (several.map Prod.fst))

/-- What an argument is taken for. -/
def readArgument (t : Topic) (s : Text) : Except Problem Reading :=
  match s with
  | .scalar '-' :: _ => readDashed t s
  | _ => .ok .plain

/-- Takes every argument for what it is; behind `--` all are plain. -/
def readArguments (t : Topic) : List Text → Except Problem (List Argument)
  | [] => .ok []
  | s :: rest =>
    if s = "--" then .ok (⟨s, .separator⟩ :: rest.map fun s => ⟨s, .plain⟩)
    else do
      let reading ← readArgument t s
      let arguments ← readArguments t rest
      return ⟨s, reading⟩ :: arguments

/-! ## Options and values -/

/-- Why the reading ends before a command can be carried out. -/
inductive Halt where
  | help (topic : Topic)
  | misuse (topic : Topic) (problem : Problem)
deriving DecidableEq

/-- What the options and values of a command line say. -/
structure Settings where
  logLevel : Option Text := none
  file : Option Text := none
  example? : Option Text := none
  labelsAsCode : Bool := false
  /-- The assignments to variables, of which one may have been left out. -/
  assignments : List (Option Text) := []
  /-- The arguments that fit nowhere. -/
  extras : List Text := []

namespace Settings

/-- Adds an argument that fits nowhere. -/
def addExtra (s : Settings) (argument : Text) : Settings :=
  { s with extras := s.extras ++ [argument] }

/-- Sets an option that takes a value, or has had its value left out. -/
def setValue (s : Settings) (flag : Flag) (value : Option Text) : Settings :=
  match flag with
  | .logLevel => { s with logLevel := value }
  | .example => { s with example? := value }
  | .var => { s with assignments := s.assignments ++ [value] }
  | .help | .labelsAsCode => s

end Settings

/-- The value that is meant by a text behind an equals sign. -/
def attachedValue (value : Text) : Option Text :=
  if value = "--" then none else some value

/-- What is left of the letters behind the option `-h` when all that repeat it are taken away. -/
def afterHelp (letters : Text) : Text :=
  letters.dropWhile (· = .scalar 'h')

/-- Sets an option that takes no value.  Behind an option of one letter more letters can stand,
which are options too. -/
def applySwitch (t : Topic) (s : Settings) (flag : Flag) (byLetter : Bool)
    (attached : Option Text) : Except Halt Settings :=
  match attached with
  | some value =>
    if byLetter && !value.isEmpty then
      let rest := afterHelp value
      if rest.isEmpty then .error (.help t)
      else .error (.misuse t (.ignoredValue flag rest))
    else .error (.misuse t (.ignoredValue flag value))
  | none =>
    match flag with
    | .labelsAsCode => .ok { s with labelsAsCode := true }
    | _ => .error (.help t)

/-- Reads the arguments of a command.  `wantsFile` says whether a file can still be named: the
first plain argument is the file, and a separator beside it is dropped with it. -/
def readTaskArguments (t : Topic) : Bool → Settings → List Argument → Except Halt Settings
  | _, s, [] => .ok s
  | wantsFile, s, a :: rest =>
    match a.reading with
    | .plain =>
      if wantsFile then
        let named := { s with file := some a.spelling }
        match rest with
        | ⟨_, .separator⟩ :: rest => readTaskArguments t false named rest
        | rest => readTaskArguments t false named rest
      else readTaskArguments t false (s.addExtra a.spelling) rest
    | .separator =>
      if wantsFile then
        match rest with
        | ⟨file, _⟩ :: rest => readTaskArguments t false { s with file := some file } rest
        | [] => .ok s
      else readTaskArguments t false (s.addExtra a.spelling) rest
    | .unknownOption => readTaskArguments t wantsFile (s.addExtra a.spelling) rest
    | .option flag byLetter attached =>
      if flag.takesValue then
        match attached with
        | some v =>
          readTaskArguments t wantsFile (s.setValue flag (attachedValue v)) rest
        | none =>
          match rest with
          | ⟨value, .plain⟩ :: rest =>
            readTaskArguments t wantsFile (s.setValue flag (some value)) rest
          | _ => .error (.misuse t (.missingValue flag))
      else
        match applySwitch t s flag byLetter attached with
        | .error e => .error e
        | .ok s' => readTaskArguments t wantsFile s' rest

/-- A command that can be carried out. -/
structure Invocation where
  task : Task
  settings : Settings

/-- Reads a command and what follows it. -/
def readTask (s : Settings) (name : Text) (rest : List Text) : Except Halt Invocation :=
  match Task.find? name with
  | none => .error (.misuse .program (.unknownCommand name))
  | some task =>
    match readArguments (.task task) rest with
    | .error e => .error (.misuse (.task task) e)
    | .ok arguments =>
      match readTaskArguments (.task task) task.needsChart s arguments with
      | .error e => .error e
      | .ok settings => .ok ⟨task, settings⟩

/-- Reads the options of the program up to the command.  A separator in front of the command is
taken for the command itself. -/
def readProgramArguments : Settings → List Argument → Except Halt Invocation
  | _, [] => .error (.misuse .program .missingCommand)
  | s, a :: rest =>
    match a.reading with
    | .plain => readTask s a.spelling (rest.map (·.spelling))
    | .separator =>
      if rest.isEmpty then .error (.misuse .program .missingCommand)
      else readTask s a.spelling (rest.map (·.spelling))
    | .unknownOption => readProgramArguments (s.addExtra a.spelling) rest
    | .option flag byLetter attached =>
      if flag.takesValue then
        match attached with
        | some v => readProgramArguments (s.setValue flag (attachedValue v)) rest
        | none =>
          match rest with
          | ⟨value, .plain⟩ :: rest => readProgramArguments (s.setValue flag (some value)) rest
          | _ => .error (.misuse .program (.missingValue flag))
      else
        match applySwitch .program s flag byLetter attached with
        | .error e => .error e
        | .ok s' => readProgramArguments s' rest

/-- Reads a command line. -/
def readCommandLine (argv : List Text) : Except Halt Invocation :=
  match readArguments .program argv with
  | .error e => .error (.misuse .program e)
  | .ok arguments =>
    match readProgramArguments {} arguments with
    | .error e => .error e
    | .ok invocation =>
      if invocation.settings.extras.isEmpty then .ok invocation
      else .error (.misuse .program (.unrecognized invocation.settings.extras))

end Flowchart.Command
