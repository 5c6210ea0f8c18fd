import Flowchart.Text.Basic

/-! # Decimal numerals

Integers are unbounded, but a numeral that is read or written has at most `maxDigits` digits:
a longer one is refused.  Leading zeros count, a sign does not.
-/

namespace Flowchart

/-- The greatest number of digits of a numeral. -/
def maxDigits : Nat := 4300

/-- A numeral that is too long. -/
inductive LimitError where
  /-- A numeral of `digits` digits was to be read. -/
  | tooLongToRead (digits : Nat)
  /-- An integer was to be written that needs more than `maxDigits` digits. -/
  | tooLongToWrite
deriving DecidableEq

namespace Numeral

/-- The decimal digits of a natural number, without leading zeros. -/
def digits (n : Nat) : List Char :=
  Nat.toDigits 10 n

/-- The numeral of a natural number, however long. -/
def text (n : Nat) : Text :=
  .ofChars (digits n)

/-- The number whose decimal digits have the given values, the highest first. -/
def value (ds : List Nat) : Nat :=
  ds.foldl (fun n d => 10 * n + d) 0

/-- Reads digits whose number is limited. -/
def read (ds : List Nat) : Except LimitError Nat :=
  if maxDigits < ds.length then .error (.tooLongToRead ds.length) else .ok (value ds)

/-- Whether an integer has a numeral of at most `maxDigits` digits. -/
def isWritable (n : Int) : Bool :=
  n.natAbs < Nat.pow 10 maxDigits

/-- The numeral of an integer, with a minus sign if it is negative. -/
def signed (n : Int) : Text :=
  if n < 0 then '-' :: text n.natAbs else text n.natAbs

/-- Writes an integer whose number of digits is limited. -/
def write (n : Int) : Except LimitError Text :=
  if isWritable n then .ok (signed n) else .error .tooLongToWrite

end Numeral

/-- The report on a numeral that is too long. -/
def LimitError.message (e : LimitError) : Text :=
  "Exceeds the limit (" ++ Numeral.text maxDigits ++ " digits) for integer string conversion" ++
    (match e with
     | .tooLongToRead digits => ": value has " ++ Numeral.text digits ++ " digits"
     | .tooLongToWrite => []) ++
    "; use sys.set_int_max_str_digits() to increase the limit"

end Flowchart
