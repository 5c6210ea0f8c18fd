import Flowchart.Number.Numeral

/-! # Binary floating-point numbers of 64 bits

A number of the format is not a number at all, infinite, or `significand * 2 ^ exponent` with a
sign.  Finite numbers are kept in the one form in which the significand has fewer than 54 bits,
the exponent is at least -1074, and the significand has exactly 53 bits unless the exponent is
-1074; so equal numbers are equal values, and only zero has two signs.
-/

namespace Flowchart

/-- The quotient `num / den` rounded to the nearest natural number, a half to the even one. -/
def Number.roundDiv (num den : Nat) : Nat :=
  let q := num / den
  let r := num % den
  if den < 2 * r then q + 1
  else if 2 * r = den then q + q % 2
  else q

/-- A binary floating-point number of 64 bits. -/
inductive Binary64 where
  | nan
  | infinite (negative : Bool)
  | finite (negative : Bool) (significand : Nat) (exponent : Int)
deriving DecidableEq

namespace Binary64

/-- The exponent of the smallest numbers. -/
def minExponent : Int := -1074

/-- The exponent of the largest finite numbers. -/
def maxExponent : Int := 971

/-- The zero of a sign. -/
def zero (negative : Bool) : Binary64 :=
  .finite negative 0 minExponent

/-- `num / den * 2 ^ shift` as a quotient of natural numbers. -/
def scale (num den : Nat) (shift : Int) : Nat × Nat :=
  if 0 ≤ shift then (num * Nat.pow 2 shift.toNat, den) else (num, den * Nat.pow 2 (-shift).toNat)

/-- The exponent with which `num / den` has a significand of 53 bits, or the least exponent if
the number is too small for that. -/
def exponentOf (num den : Nat) : Int :=
  let guess : Int := (num.log2 : Int) - den.log2 - 52
  let (n, d) := scale num den (-guess)
  max minExponent (if n < Nat.pow 2 52 * d then guess - 1 else guess)

/-- The number nearest to `num / den`, a tie to the even significand. -/
def ofRatio (negative : Bool) (num den : Nat) : Binary64 :=
  if num = 0 then zero negative
  else
    let e := exponentOf num den
    let (n, d) := scale num den (-e)
    let m := Number.roundDiv n d
    let (m, e) := if m = Nat.pow 2 53 then (Nat.pow 2 52, e + 1) else (m, e)
    if maxExponent < e then .infinite negative else .finite negative m e

/-- The number nearest to `digits * 10 ^ exponent`.  A decimal point that stands far outside the
range of the format gives zero or infinity at once. -/
def ofDecimal (negative : Bool) (digits : Nat) (exponent : Int) : Binary64 :=
  let point := exponent + (Numeral.digits digits).length
  if digits = 0 then zero negative
  else if 400 < point then .infinite negative
  else if point < -400 then zero negative
  else if 0 ≤ exponent then ofRatio negative (digits * Nat.pow 10 exponent.toNat) 1
  else ofRatio negative digits (Nat.pow 10 (-exponent).toNat)

/-- The integer that a number is equal to, if there is one. -/
def whole? : Binary64 → Option Int
  | .nan | .infinite _ => none
  | .finite negative m e =>
    let sign (n : Nat) : Int := if negative then -(n : Int) else n
    if 0 ≤ e then some (sign (m * Nat.pow 2 e.toNat))
    else
      let d := Nat.pow 2 (-e).toNat
      if m % d = 0 then some (sign (m / d)) else none

/-- Whether a number is zero, of either sign. -/
def isZero : Binary64 → Bool
  | .finite _ m _ => m == 0
  | _ => false

/-- The 64 bits of a number, the sign highest.  Of the numbers that are not a number the quiet
one without payload stands for all. -/
def bits : Binary64 → Nat
  | .nan => 0x7FF8000000000000
  | .infinite negative => signBit negative + 0x7FF0000000000000
  | .finite negative m e =>
    if m < Nat.pow 2 52 then signBit negative + m
    else signBit negative + (e + 1075).toNat * Nat.pow 2 52 + (m - Nat.pow 2 52)
where
  /-- The bit of the sign. -/
  signBit (negative : Bool) : Nat := if negative then Nat.pow 2 63 else 0

/-- The bits of a number as sixteen hexadecimal digits. -/
def hex (x : Binary64) : Text :=
  Text.hexDigits 16 x.bits

end Binary64

end Flowchart
