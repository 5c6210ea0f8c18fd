import Flowchart.Json.Parser
import Flowchart.Model
import Flowchart.Text.Utf8

/-! # Flowcharts from files -/

namespace Flowchart.Command

/-- Why the bytes of a file could not be had. -/
inductive AccessError where
  /-- The system refused, for a reason that has a number and a text. -/
  | system (number : Nat) (reason : Text)
  /-- The name holds a zero byte, which no file name can. -/
  | zeroByte
  /-- The name holds surrogates from position `first` to position `last`, of which `c` is the
  first, and no bytes spell them. -/
  | unencodable (c : CodePoint) (first last : Nat)
deriving DecidableEq

namespace AccessError

/-- The reasons for which a system refuses a file, by their numbers. -/
def reasons : List (Nat × Text) :=
  [(2, "No such file or directory"), (5, "Input/output error"), (13, "Permission denied"),
   (20, "Not a directory"), (21, "Is a directory"), (36, "File name too long"),
   (40, "Too many levels of symbolic links")]

/-- The error with a number. -/
def ofNumber (n : Nat) : AccessError :=
  .system n ((reasons.lookup n).getD "Input/output error")

/-- There is no such file. -/
def missing : AccessError := ofNumber 2

/-- The report on a file that could not be had. -/
def message (file : Text) : AccessError → Text
  | .system number reason =>
    "[Errno " ++ Numeral.text number ++ "] " ++ reason ++ ": " ++ Text.quoted file
  | .zeroByte => "embedded null byte"
  | .unencodable c first last =>
    let place : Text :=
      if first = last then
        "character '\\u" ++ Text.hexDigits 4 c.value ++ "' in position " ++ Numeral.text first
      else
        "characters in position " ++ Numeral.text first ++ "-" ++ Numeral.text last
    "'utf-8' codec can't encode " ++ place ++ ": surrogates not allowed"

end AccessError

/-! ## File names -/

/-- Whether a code point stands for a byte that is not text.  Such bytes can be part of a file
name. -/
def isRawByte (c : CodePoint) : Bool :=
  0xDC80 ≤ c.value && c.value ≤ 0xDCFF

/-- The first surrogate of a name that stands for no byte, and the surrogates that follow it
directly. -/
def encodingFault? (position : Nat) : Text → Option AccessError
  | [] => none
  | c :: cs =>
    if c.isSurrogate && !isRawByte c then
      some (.unencodable c position (position + (cs.takeWhile CodePoint.isSurrogate).length))
    else encodingFault? (position + 1) cs

/-- Why a text cannot be the name of a file. -/
def nameFault? (name : Text) : Option AccessError :=
  match encodingFault? 0 name with
  | some e => some e
  | none => if name.contains '\x00' then some .zeroByte else none

/-- What a file of the given name holds, if a file can have that name. -/
def checkName (name : Text) (contents : Except AccessError (List UInt8)) :
    Except AccessError (List UInt8) :=
  match nameFault? name with
  | some e => .error e
  | none => contents

/-! ## Flowcharts in files -/

/-- Why a file is not a flowchart. -/
inductive FileError where
  | access (error : AccessError)
  | encoding (error : Text.Utf8Error)
  /-- The text of the file is not JSON. -/
  | json (text : Text) (error : Json.ReadError)
  | model (error : Model.LoadError)

/-- The report on a file that is not a flowchart. -/
def FileError.message (file : Text) : FileError → Text
  | .access e => e.message file
  | .encoding e => e.message
  | .json text e => e.message text
  | .model e => e.message

/-- Reads a flowchart from the bytes of a file. -/
def loadFile (labelsAsCode : Bool) (contents : Except AccessError (List UInt8)) :
    Except FileError Model.Records := do
  let bytes ← contents.mapError .access
  let text ← (Text.Utf8.decode bytes).mapError .encoding
  let text := Text.unifyLineEnds text
  let model ← (Json.parseWith false text).mapError (.json text)
  (Model.load labelsAsCode model).mapError .model

end Flowchart.Command
