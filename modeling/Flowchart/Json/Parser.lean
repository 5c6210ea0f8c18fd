import Flowchart.Json.Basic
import Flowchart.Number.Numeral
import Flowchart.Text.Digit

/-! # Reading JSON text

`parse` reads a whole text as one value.  Beyond the grammar of JSON it accepts `NaN`, `Infinity`
and `-Infinity`.  A text that is refused is reported with the position, line and column at which
the first fault was found.

A number is an integer unless it has a fraction or an exponent.  Integers are held to the limit
on numerals, and lists and objects to a limit on their nesting, unless the reader is told that
they are `unbounded`.
-/

namespace Flowchart.Json

/-- What is wrong at a place of a JSON text. -/
inductive Fault where
  | valueExpected
  | nameExpected
  | colonExpected
  | commaExpected
  | unterminatedString
  | controlCharacter
  | invalidEscape
  | invalidCodePoint
  | extraData
  | byteOrderMark
deriving DecidableEq

/-- The report on a fault, without its place. -/
def Fault.message : Fault → Text
  | .valueExpected => "Expecting value"
  | .nameExpected => "Expecting property name enclosed in double quotes"
  | .colonExpected => "Expecting ':' delimiter"
  | .commaExpected => "Expecting ',' delimiter"
  | .unterminatedString => "Unterminated string starting at"
  | .controlCharacter => "Invalid control character at"
  | .invalidEscape => "Invalid \\escape"
  | .invalidCodePoint => "Invalid \\uXXXX escape"
  | .extraData => "Extra data"
  | .byteOrderMark => "Unexpected UTF-8 BOM (decode using utf-8-sig)"

/-- What can be nested. -/
inductive Shape where
  | list
  | object
deriving DecidableEq

/-- The name of a shape in reports. -/
def Shape.name : Shape → Text
  | .list => "array"
  | .object => "object"

/-- Why a text is refused. -/
inductive ReadError where
  /-- The text is not JSON. -/
  | malformed (fault : Fault) (position : Nat)
  /-- An integer is too long. -/
  | limit (error : LimitError)
  /-- A list or an object stands inside too many others. -/
  | tooDeep (shape : Shape)
deriving DecidableEq

/-- How many lists and objects may stand inside one another. -/
def maxNesting : Nat := 990

/-- What is left of a text, and where it starts. -/
structure Cursor where
  position : Nat
  rest : Text

/-- Moves over `n` characters, of which `rest` is what follows. -/
def Cursor.advance (here : Cursor) (n : Nat) (rest : Text) : Cursor :=
  ⟨here.position + n, rest⟩

/-- Whether a character may stand between the parts of a value. -/
def isSpace (c : CodePoint) : Bool :=
  c = ' ' || c = '\t' || c = '\n' || c = '\r'

/-- Skips the space before the next part. -/
def Cursor.skipSpace (here : Cursor) : Cursor :=
  here.advance (here.rest.takeWhile isSpace).length (here.rest.dropWhile isSpace)

/-- The value of four hexadecimal digits. -/
def hexQuad? (a b c d : CodePoint) : Option Nat := do
  let a ← Text.hexValue? a
  let b ← Text.hexValue? b
  let c ← Text.hexValue? c
  let d ← Text.hexValue? d
  return ((a * 16 + b) * 16 + c) * 16 + d

/-- The character that an escape of one letter stands for. -/
def escaped? : CodePoint → Option CodePoint
  | .scalar '"' => some '"'
  | .scalar '\\' => some '\\'
  | .scalar '/' => some '/'
  | .scalar 'b' => some '\x08'
  | .scalar 'f' => some '\x0c'
  | .scalar 'n' => some '\n'
  | .scalar 'r' => some '\r'
  | .scalar 't' => some '\t'
  | _ => none

/-- What the four digits of an escaped code point and the text after them stand for. -/
inductive Escaped where
  /-- A code point of its own. -/
  | single (c : CodePoint)
  /-- A character that also takes up a second escape of six characters. -/
  | paired (c : CodePoint)
  /-- A first half whose second half is malformed. -/
  | broken

/-- Joins a first half with the second half that may follow it; a half without the other stands
for itself. -/
def joinHalves (code : Nat) (rest : Text) : Escaped :=
  if 0xD800 ≤ code && code < 0xDC00 then
    match rest with
    | .scalar '\\' :: .scalar 'u' :: a :: b :: c :: d :: _ :: _ =>
      match hexQuad? a b c d with
      | none => .broken
      | some low =>
        if 0xDC00 ≤ low && low < 0xE000 then
          .paired (.ofNat (0x10000 + (code - 0xD800) * 0x400 + (low - 0xDC00)))
        else .single (.ofNat code)
    | _ => .single (.ofNat code)
  else .single (.ofNat code)

/-- Reads the rest of a string whose opening quote stands at `start`, after skipping `skip`
characters of an escape.  The characters are collected in reverse. -/
def readString (start : Nat) (position skip : Nat) (acc : Text) :
    Text → Except ReadError (Text × Cursor)
  | [] => .error (.malformed .unterminatedString start)
  | c :: cs =>
    match skip with
    | skip + 1 => readString start (position + 1) skip acc cs
    | 0 =>
      if c = '"' then .ok (acc.reverse, ⟨position + 1, cs⟩)
      else if c = '\\' then
        match cs with
        | [] => .error (.malformed .unterminatedString start)
        | .scalar 'u' :: a :: b :: c :: d :: e :: rest =>
          match hexQuad? a b c d with
          | none => .error (.malformed .invalidCodePoint (position + 1))
          | some code =>
            match joinHalves code (e :: rest) with
            | .single c => readString start (position + 1) 5 (c :: acc) cs
            | .paired c => readString start (position + 1) 11 (c :: acc) cs
            | .broken => .error (.malformed .invalidCodePoint (position + 7))
        | e :: _ =>
          if e = 'u' then .error (.malformed .invalidCodePoint (position + 1))
          else
            match escaped? e with
            | none => .error (.malformed .invalidEscape position)
            | some c => readString start (position + 1) 1 (c :: acc) cs
      else if c.value < 0x20 then .error (.malformed .controlCharacter position)
      else readString start (position + 1) 0 (c :: acc) cs

/-- The values of the digits of a number. -/
def digitValues (ds : Text) : List Nat :=
  ds.map Text.digitValue

/-- The digits of a fraction, if a point and a digit come next. -/
def fraction : Text → Text
  | .scalar '.' :: cs => cs.takeWhile Text.isAsciiDigit
  | _ => []

/-- The sign, the digits and the length of an exponent, if a complete one comes next. -/
def exponent? : Text → Option (Bool × Text × Nat)
  | [] => none
  | e :: cs =>
    if e = 'e' || e = 'E' then
      let (negative, signs, ds) :=
        match cs with
        | .scalar '-' :: cs => (true, 1, cs.takeWhile Text.isAsciiDigit)
        | .scalar '+' :: cs => (false, 1, cs.takeWhile Text.isAsciiDigit)
        | _ => (false, 0, cs.takeWhile Text.isAsciiDigit)
      if ds.isEmpty then none else some (negative, ds, 1 + signs + ds.length)
    else none

/-- Reads a number without its sign; the number begins at `start`. -/
def readDigits (unbounded negative : Bool) (start here : Cursor) :
    Except ReadError (Json × Cursor) :=
  let whole : Text :=
    match here.rest with
    | .scalar '0' :: _ => "0"
    | cs => cs.takeWhile Text.isAsciiDigit
  if whole.isEmpty then .error (.malformed .valueExpected start.position)
  else
    let rest := here.rest.drop whole.length
    let decimals := fraction rest
    let pointed := if decimals.isEmpty then 0 else decimals.length + 1
    let rest := rest.drop pointed
    match decimals.isEmpty, exponent? rest with
    | true, none =>
      let number (n : Nat) : Json := .int (if negative then -(n : Int) else n)
      if unbounded then
        .ok (number (Numeral.value (digitValues whole)), here.advance whole.length rest)
      else
        match Numeral.read (digitValues whole) with
        | .ok n => .ok (number n, here.advance whole.length rest)
        | .error e => .error (.limit e)
    | _, exponent =>
      let digits := whole ++ decimals
      let (down, ds, size) := exponent.getD (false, [], 0)
      let power : Int := Numeral.value (digitValues ds)
      let x := Binary64.ofDecimal negative (Numeral.value (digitValues digits))
        ((if down then -power else power) - decimals.length)
      .ok (.float x, here.advance (whole.length + pointed + size) (rest.drop size))

/-- The values that are written as words. -/
def words : List (Text × Json) :=
  [("null", .null), ("true", .bool true), ("false", .bool false), ("NaN", .float .nan),
   ("Infinity", .float (.infinite false)), ("-Infinity", .float (.infinite true))]

/-- Reads a word or a number. -/
def readAtom (unbounded : Bool) (here : Cursor) : Except ReadError (Json × Cursor) :=
  match words.find? fun (w, _) => w.isPrefixOf here.rest with
  | some (w, v) => .ok (v, here.advance w.length (here.rest.drop w.length))
  | none =>
    match here.rest with
    | .scalar '-' :: cs => readDigits unbounded true here (here.advance 1 cs)
    | _ => readDigits unbounded false here here

mutual

/-- Reads a value inside `depth` lists and objects.  The fuel bounds the number of values, items
and fields that are opened. -/
def readValue (unbounded : Bool) (depth : Nat) : Nat → Cursor → Except ReadError (Json × Cursor)
  | 0, here => .error (.malformed .valueExpected here.position)
  | fuel + 1, here =>
    match here.rest with
    | .scalar '"' :: cs => do
      let (s, after) ← readString here.position (here.position + 1) 0 [] cs
      return (.text s, after)
    | .scalar '[' :: cs =>
      if !unbounded && maxNesting ≤ depth then .error (.tooDeep .list)
      else
        let inner := (here.advance 1 cs).skipSpace
        match inner.rest with
        | .scalar ']' :: cs => .ok (.list [], inner.advance 1 cs)
        | _ => readItems unbounded (depth + 1) fuel [] inner
    | .scalar '\x7b' :: cs =>
      if !unbounded && maxNesting ≤ depth then .error (.tooDeep .object)
      else
        let inner := (here.advance 1 cs).skipSpace
        match inner.rest with
        | .scalar '\x7d' :: cs => .ok (.object [], inner.advance 1 cs)
        | _ => readFields unbounded (depth + 1) fuel [] inner
    | _ => readAtom unbounded here

/-- Reads the items of a list from the next one to the closing bracket.  The items read so far
are given in reverse. -/
def readItems (unbounded : Bool) (depth : Nat) :
    Nat → List Json → Cursor → Except ReadError (Json × Cursor)
  | 0, _, here => .error (.malformed .valueExpected here.position)
  | fuel + 1, acc, here => do
    let (v, after) ← readValue unbounded depth fuel here
    let after := after.skipSpace
    match after.rest with
    | .scalar ']' :: cs => return (.list (v :: acc).reverse, after.advance 1 cs)
    | .scalar ',' :: cs => readItems unbounded depth fuel (v :: acc) (after.advance 1 cs).skipSpace
    | _ => .error (.malformed .commaExpected after.position)

/-- Reads the fields of an object from the next one to the closing brace.  The fields read so
far are given in reverse. -/
def readFields (unbounded : Bool) (depth : Nat) :
    Nat → List (Text × Json) → Cursor → Except ReadError (Json × Cursor)
  | 0, _, here => .error (.malformed .valueExpected here.position)
  | fuel + 1, acc, here => do
    match here.rest with
    | .scalar '"' :: cs =>
      let (name, after) ← readString here.position (here.position + 1) 0 [] cs
      let after := after.skipSpace
      match after.rest with
      | .scalar ':' :: cs =>
        let (v, after) ← readValue unbounded depth fuel (after.advance 1 cs).skipSpace
        let after := after.skipSpace
        match after.rest with
        | .scalar '\x7d' :: cs => return (ofFields ((name, v) :: acc).reverse, after.advance 1 cs)
        | .scalar ',' :: cs =>
          readFields unbounded depth fuel ((name, v) :: acc) (after.advance 1 cs).skipSpace
        | _ => .error (.malformed .commaExpected after.position)
      | _ => .error (.malformed .colonExpected after.position)
    | _ => .error (.malformed .nameExpected here.position)

end

/-- Reads a whole text as one value. -/
def parseWith (unbounded : Bool) (cs : Text) : Except ReadError Json :=
  match cs with
  | .scalar '\ufeff' :: _ => .error (.malformed .byteOrderMark 0)
  | _ => do
    let (v, after) ← readValue unbounded 0 (2 * cs.length + 2) (Cursor.skipSpace ⟨0, cs⟩)
    let after := after.skipSpace
    if after.rest.isEmpty then return v
    else .error (.malformed .extraData after.position)

/-- Reads a whole text as one value that keeps the limits. -/
def parse (t : Text) : Except ReadError Json :=
  parseWith false t

/-- The report on a text that is refused.  Lines and columns count from one, the position from
zero. -/
def ReadError.message (cs : Text) : ReadError → Text
  | .limit e => e.message
  | .tooDeep shape =>
    "maximum recursion depth exceeded while decoding a JSON " ++ shape.name ++
      " from a unicode string"
  | .malformed fault position =>
    let before := cs.take position
    let line := before.count (.scalar '\n') + 1
    let column := (before.reverse.takeWhile (· ≠ .scalar '\n')).length + 1
    fault.message ++ ": line " ++ Numeral.text line ++ " column " ++ Numeral.text column ++
      " (char " ++ Numeral.text position ++ ")"

end Flowchart.Json
