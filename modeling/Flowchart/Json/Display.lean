import Flowchart.Json.Basic
import Flowchart.Number.Decimal
import Flowchart.Number.Numeral
import Flowchart.Text.Quoted

/-! # Showing JSON values as labels

Where the editor stored a number, a list or an object in place of a label, the label is the value
written out: texts inside lists and objects are quoted, a text on its own is shown as it is.
-/

namespace Flowchart.Json

mutual

/-- A value as it is written inside a list or an object. -/
def written : Json → Except LimitError Text
  | .null => .ok "None"
  | .bool b => .ok (if b then "True" else "False")
  | .int n => Numeral.write n
  | .float x => .ok x.text
  | .text s => .ok (Text.quoted s)
  | .list items => do
    let parts ← writtenItems items
    return "[" ++ Text.joinWith ", " parts ++ "]"
  | .object fields => do
    let parts ← writtenFields fields
    return "\x7b" ++ Text.joinWith ", " parts ++ "\x7d"

/-- The items of a list. -/
def writtenItems : List Json → Except LimitError (List Text)
  | [] => .ok []
  | v :: items => do
    let s ← written v
    let ss ← writtenItems items
    return s :: ss

/-- The fields of an object. -/
def writtenFields : List (Text × Json) → Except LimitError (List Text)
  | [] => .ok []
  | (name, v) :: fields => do
    let s ← written v
    let ss ← writtenFields fields
    return (Text.quoted name ++ ": " ++ s) :: ss

end

/-- A value as a label. -/
def display : Json → Except LimitError Text
  | .text s => .ok s
  | v => written v

end Flowchart.Json
