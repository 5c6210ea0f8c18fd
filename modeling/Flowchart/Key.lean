import Flowchart.Json.Display

/-! # Keys of nodes

The editor identifies a node by a key, which is any JSON value but a list or an object.  Keys are
told apart by what they stand for and not by how they are written: true is the same key as the
number one, false the same as zero, and a floating-point number the same as the integer it is
equal to.  A text is never the same key as a number.
-/

namespace Flowchart

/-- The key of a node. -/
inductive Key where
  | null
  | bool (b : Bool)
  | int (n : Int)
  | float (x : Binary64)
  | text (s : Text)
deriving DecidableEq

namespace Key

/-- What a key stands for. -/
inductive Identity where
  | null
  | integer (n : Int)
  /-- A number that is not an integer. -/
  | fraction (x : Binary64)
  | text (s : Text)
deriving DecidableEq

/-- What a key stands for. -/
def identity : Key → Identity
  | .null => .null
  | .bool b => .integer (if b then 1 else 0)
  | .int n => .integer n
  | .float x =>
    match x.whole? with
    | some n => .integer n
    | none => .fraction x
  | .text s => .text s

/-- Whether two keys are the same. -/
def same (a b : Key) : Bool :=
  a.identity = b.identity

theorem same_iff {a b : Key} : a.same b = true ↔ a.identity = b.identity := by
  simp [same]

@[simp] theorem same_refl (a : Key) : a.same a = true := by
  simp [same]

theorem same_comm (a b : Key) : a.same b = b.same a := by
  simp [same, eq_comm]

theorem same_trans {a b c : Key} (hab : a.same b = true) (hbc : b.same c = true) :
    a.same c = true := by
  rw [same_iff] at *
  exact hab.trans hbc

/-- A key can be replaced by the same key on the left of `same`. -/
theorem same_congr_left {a b : Key} (h : a.same b = true) (c : Key) : a.same c = b.same c := by
  rw [same_iff] at h
  simp [same, h]

/-- Whether a key occurs in a list. -/
def isIn (k : Key) (ks : List Key) : Bool :=
  ks.any (·.same k)

@[simp] theorem isIn_nil (k : Key) : k.isIn [] = false := rfl

@[simp] theorem isIn_cons (k a : Key) (ks : List Key) :
    k.isIn (a :: ks) = (a.same k || k.isIn ks) := rfl

@[simp] theorem isIn_append (k : Key) (as bs : List Key) :
    k.isIn (as ++ bs) = (k.isIn as || k.isIn bs) := by
  simp [isIn]

/-- A key as a JSON value. -/
def toJson : Key → Json
  | .null => .null
  | .bool b => .bool b
  | .int n => .int n
  | .float x => .float x
  | .text s => .text s

/-- A JSON value as a key, unless it is a list or an object. -/
def ofJson? : Json → Option Key
  | .null => some .null
  | .bool b => some (.bool b)
  | .int n => some (.int n)
  | .float x => some (.float x)
  | .text s => some (.text s)
  | .list _ | .object _ => none

/-- A key as reports show it. -/
def written (k : Key) : Except LimitError Text :=
  k.toJson.written

end Key

end Flowchart
