import Flowchart.Json.Display

/-! # Writing JSON text

Values are written without blanks, in the order of their fields.  In a string only the quote, the
backslash and the control characters are escaped; floating-point numbers that are not finite have
the names `NaN`, `Infinity` and `-Infinity`.
-/

namespace Flowchart.Json

/-- How one code point is written in a string. -/
def escape (c : CodePoint) : Text :=
  if c = '"' then ['\\', '"']
  else if c = '\\' then ['\\', '\\']
  else if c = '\n' then ['\\', 'n']
  else if c = '\r' then ['\\', 'r']
  else if c = '\t' then ['\\', 't']
  else if c = '\x08' then ['\\', 'b']
  else if c = '\x0c' then ['\\', 'f']
  else if c.value < 0x20 then '\\' :: 'u' :: Text.hexDigits 4 c.value
  else [c]

/-- A string as it is written. -/
def quote (s : Text) : Text :=
  "\"" ++ s.flatMap escape ++ "\""

/-- A floating-point number as it is written. -/
def number : Binary64 → Text
  | .nan => "NaN"
  | .infinite negative => if negative then "-Infinity" else "Infinity"
  | x => x.text

mutual

/-- A value as JSON text. -/
def print : Json → Except LimitError Text
  | .null => .ok "null"
  | .bool b => .ok (if b then "true" else "false")
  | .int n => Numeral.write n
  | .float x => .ok (number x)
  | .text s => .ok (quote s)
  | .list items => do
    let parts ← printItems items
    return "[" ++ Text.joinWith "," parts ++ "]"
  | .object fields => do
    let parts ← printFields fields
    return "\x7b" ++ Text.joinWith "," parts ++ "\x7d"

/-- The items of a list as JSON texts. -/
def printItems : List Json → Except LimitError (List Text)
  | [] => .ok []
  | v :: items => do
    let s ← print v
    let ss ← printItems items
    return s :: ss

/-- The fields of an object as JSON texts. -/
def printFields : List (Text × Json) → Except LimitError (List Text)
  | [] => .ok []
  | (name, v) :: fields => do
    let s ← print v
    let ss ← printFields fields
    return (quote name ++ ":" ++ s) :: ss

end

end Flowchart.Json
