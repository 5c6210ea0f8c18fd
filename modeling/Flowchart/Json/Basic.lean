import Flowchart.Number.Binary64

/-! # JSON values

A JSON value as the editor stores it.  Integers are unbounded and apart from floating-point
numbers, and the fields of an object keep the order in which their names first occurred.
-/

namespace Flowchart

/-- A JSON value. -/
inductive Json where
  | null
  | bool (b : Bool)
  | int (n : Int)
  | float (x : Binary64)
  | text (s : Text)
  | list (items : List Json)
  | object (fields : List (Text × Json))

namespace Json

/-- Sets a field of an object: a name that is there already keeps its place. -/
def setField (name : Text) (v : Json) : List (Text × Json) → List (Text × Json)
  | [] => [(name, v)]
  | (n, w) :: fields => if n = name then (n, v) :: fields else (n, w) :: setField name v fields

/-- An object with the given fields.  A repeated name keeps its first place and its last
value. -/
def ofFields (fields : List (Text × Json)) : Json :=
  .object (fields.foldl (fun fs (name, v) => setField name v fs) [])

/-- The value of a field, if there is one. -/
def field? (name : Text) (fields : List (Text × Json)) : Option Json :=
  fields.lookup name

/-- The value of a field, and null if there is none. -/
def fieldD (name : Text) (fields : List (Text × Json)) : Json :=
  (field? name fields).getD .null

/-- Whether a value counts as present: null, false, zero and whatever is empty do not. -/
def isTruthy : Json → Bool
  | .null => false
  | .bool b => b
  | .int n => n != 0
  | .float x => !x.isZero
  | .text s => !s.isEmpty
  | .list items => !items.isEmpty
  | .object fields => !fields.isEmpty

/-- The name by which reports call the kind of a value. -/
def kindName : Json → Text
  | .null => "NoneType"
  | .bool _ => "bool"
  | .int _ => "int"
  | .float _ => "float"
  | .text _ => "str"
  | .list _ => "list"
  | .object _ => "dict"

end Json

end Flowchart
