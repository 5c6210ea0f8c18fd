import Flowchart.Simulation.Event
import Flowchart.Text.Quoted

/-! # The level of the log

Events below the chosen level are not logged.  A level is chosen by its name in any case; a name
that is not known means the level of warnings.
-/

namespace Flowchart.Command

/-- The least rank of the events that are logged. -/
abbrev Threshold := Nat

/-- The characters outside ASCII whose capitals are ASCII letters. -/
def foreignCapitals : List (Char × Text) :=
  [('\u00df', "SS"), ('\u0131', "I"), ('\u017f', "S"), ('\ufb00', "FF"), ('\ufb01', "FI"),
   ('\ufb02', "FL"), ('\ufb03', "FFI"), ('\ufb04', "FFL"), ('\ufb05', "ST"), ('\ufb06', "ST")]

/-- The capital of a character, for the characters whose capital is made of ASCII letters.  The
names that the log knows have no others, so other characters are left as they are. -/
def capital : CodePoint → Text
  | .surrogate offset => [.surrogate offset]
  | .scalar c =>
    if 'a' ≤ c && c ≤ 'z' then [c.toUpper]
    else (foreignCapitals.lookup c).getD [c]

/-- The levels by name. -/
def levelNames : List (Text × Threshold) :=
  [("NOTSET", 0), ("DEBUG", 10), ("INFO", 20), ("WARN", 30), ("WARNING", 30), ("ERROR", 40),
   ("CRITICAL", 50), ("FATAL", 50)]

/-- What a name that is known to the log can stand for besides a level. -/
inductive LevelError where
  /-- The name stands for a text. -/
  | text (value : Text)
  /-- The name stands for a table, which is given as reports show it. -/
  | table (shown : Text)
deriving DecidableEq

/-- The report on a name that names no level. -/
def LevelError.message : LevelError → Text
  | .text value => "Unknown level: " ++ Text.quoted value
  | .table shown => "Level not an integer or a valid string: " ++ shown

/-- The line format of the log, in the notation with percent signs. -/
def percentFormat : Text := "%(levelname)s:%(name)s:%(message)s"

/-- The table of line formats: a sign for each notation, the class that reads the notation, and
a format. -/
def formatTable : Text :=
  "\x7b'%': (<class 'logging.PercentStyle'>, '" ++ percentFormat ++
  "'), '\x7b': (<class 'logging.StrFormatStyle'>, " ++
  "'\x7blevelname\x7d:\x7bname\x7d:\x7bmessage\x7d'), " ++
  "'$': (<class 'logging.StringTemplateStyle'>, " ++
  "'$\x7blevelname\x7d:$\x7bname\x7d:$\x7bmessage\x7d')\x7d"

/-- The names that are known to the log and name no level. -/
def otherNames : List (Text × LevelError) :=
  [("BASIC_FORMAT", .text percentFormat), ("_STYLES", .table formatTable)]

/-- The level with a name. -/
def readThreshold (name : Text) : Except LevelError Threshold :=
  let name := name.flatMap capital
  match otherNames.lookup name with
  | some e => .error e
  | none => .ok ((levelNames.lookup name).getD Level.warning.rank)

/-- The level of the log: the one asked for on the command line, else the one the environment
asks for, else that of warnings.  An empty name asks for nothing. -/
def threshold (asked fallback : Option Text) : Except LevelError Threshold :=
  match asked.filter (!·.isEmpty), fallback.filter (!·.isEmpty) with
  | some name, _ => readThreshold name
  | none, some name => readThreshold name
  | none, none => .ok Level.warning.rank

/-- The lines of a log, each behind a time stamp. -/
def logLines (stamp : Text) (least : Threshold) (events : List Event) :
    Except LimitError Text :=
  match events with
  | [] => .ok ""
  | e :: es =>
    if e.level.rank < least then logLines stamp least es
    else do
      let line ← e.line
      let rest ← logLines stamp least es
      return stamp ++ " " ++ line ++ "\n" ++ rest

end Flowchart.Command
