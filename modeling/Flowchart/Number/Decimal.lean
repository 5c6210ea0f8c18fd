import Flowchart.Number.Binary64

/-! # Decimal texts of floating-point numbers

A finite number is written with the fewest decimal digits that read back as the same number; of
the decimals with that many digits the nearest is taken, and of two equally near ones the even
one.  `Shortest` finds the digits and `Binary64.text` lays them out.  `Binary64.twoPlaces` writes
a number with two places after the point.
-/

namespace Flowchart

namespace Shortest

/-- A decimal `digits * 10 ^ exponent`. -/
structure Decimal where
  digits : Nat
  exponent : Int

/-- The range of the reals that round to a number, as multiples of a unit: the value lies at
`middle`, the ends are `low` and `high`, and they belong to the range if `closed`.  The unit is
`num / den`. -/
structure Range where
  low : Nat
  middle : Nat
  high : Nat
  closed : Bool
  num : Nat
  den : Nat

/-- The reals that round to `m * 2 ^ e`, in quarters of a step.  Below a power of two the next
number is only half a step away. -/
def range (m : Nat) (e : Int) : Range where
  low := if m = Nat.pow 2 52 ∧ Binary64.minExponent < e then 4 * m - 1 else 4 * m - 2
  middle := 4 * m
  high := 4 * m + 2
  closed := m % 2 == 0
  num := if 2 ≤ e then Nat.pow 2 (e - 2).toNat else 1
  den := if 2 ≤ e then 1 else Nat.pow 2 (2 - e).toNat

/-- `a` units as a quotient in steps of `10 ^ exponent`. -/
def Range.inSteps (r : Range) (a : Nat) (exponent : Int) : Nat × Nat :=
  if 0 ≤ exponent then (a * r.num, r.den * Nat.pow 10 exponent.toNat)
  else (a * r.num * Nat.pow 10 (-exponent).toNat, r.den)

/-- Whether `digits * 10 ^ exponent` lies in the range. -/
def Range.holds (r : Range) (digits : Nat) (exponent : Int) : Bool :=
  let (lo, d) := r.inSteps r.low exponent
  let (hi, _) := r.inSteps r.high exponent
  if r.closed then lo ≤ digits * d && digits * d ≤ hi else lo < digits * d && digits * d < hi

/-- The decimal in the range with steps of `10 ^ exponent` that is nearest to the value, if one
of the value's two neighbours lies in the range. -/
def Range.nearest? (r : Range) (exponent : Int) : Option Decimal :=
  let (v, d) := r.inSteps r.middle exponent
  let below := v / d
  match r.holds below exponent, r.holds (below + 1) exponent with
  | true, true => some ⟨Number.roundDiv v d, exponent⟩
  | true, false => some ⟨below, exponent⟩
  | false, true => some ⟨below + 1, exponent⟩
  | false, false => none

/-- The least `k` with value less than `10 ^ k`, found near its estimate from the binary
logarithm. -/
def Range.magnitude (r : Range) : Int :=
  let guess : Int := (((r.middle * r.num).log2 : Int) - r.den.log2) * 30103 / 100000
  let isBelow (k : Int) : Bool :=
    let (v, d) := r.inSteps r.middle k
    v < d
  ([guess - 1, guess, guess + 1, guess + 2].find? isBelow).getD (guess + 3)

/-- The shortest decimal that reads back as `m * 2 ^ e`, for `m` not zero. -/
def ofBinary (m : Nat) (e : Int) : Decimal :=
  let r := range m e
  let k := r.magnitude
  ((List.range 17).findSome? fun (n : Nat) => r.nearest? (k - n - 1)).getD ⟨m, e⟩

end Shortest

namespace Binary64

/-- The digits without the zeros at their end, and the count of those zeros. -/
def dropZeros (digits : List Char) : List Char × Nat :=
  let kept := (digits.reverse.dropWhile (· == '0')).reverse
  (kept, digits.length - kept.length)

/-- Lays out the digits `ds` of a decimal whose point stands after the first `point` digits.
The point is written in its place when it stands at most sixteen digits after the first digit
and at most three before it, and there is always a digit after it; otherwise one digit stands
before the point and the exponent has a sign and at least two digits. -/
def layout (ds : List Char) (point : Int) : List Char :=
  if -4 < point ∧ point ≤ 16 then
    if point ≤ 0 then '0' :: '.' :: List.replicate (-point).toNat '0' ++ ds
    else if point < ds.length then ds.take point.toNat ++ '.' :: ds.drop point.toNat
    else ds ++ List.replicate (point.toNat - ds.length) '0' ++ ['.', '0']
  else
    let fraction := if ds.length ≤ 1 then [] else '.' :: ds.drop 1
    let e := point - 1
    let size := Numeral.digits e.natAbs
    let padded := if size.length < 2 then '0' :: size else size
    ds.take 1 ++ fraction ++ 'e' :: (if e < 0 then '-' else '+') :: padded

/-- The text of a number. -/
def text : Binary64 → Text
  | .nan => "nan"
  | .infinite negative => if negative then "-inf" else "inf"
  | .finite negative m e =>
    let sign : Text := if negative then ['-'] else []
    if m = 0 then sign ++ "0.0"
    else
      let d := Shortest.ofBinary m e
      let all := Numeral.digits d.digits
      sign ++ Text.ofChars (layout (dropZeros all).1 (d.exponent + all.length))

/-- A finite number with two places after the point, its exact value rounded with a half to the
even neighbour. -/
def twoPlaces : Binary64 → Text
  | .nan => "nan"
  | .infinite negative => if negative then "-inf" else "inf"
  | .finite negative m e =>
    let (n, d) := scale (100 * m) 1 e
    let hundredths := Number.roundDiv n d
    let last := hundredths % 100
    let sign : Text := if negative then "-" else []
    let point : Text := if last < 10 then ".0" else "."
    sign ++ Numeral.text (hundredths / 100) ++ point ++ Numeral.text last

end Binary64

end Flowchart
