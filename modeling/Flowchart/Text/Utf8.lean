import Flowchart.Number.Numeral

/-! # Reading text from bytes

A file is read as UTF-8 and its line ends are unified.  A byte sequence that is not UTF-8 is
refused at the first byte that no well-formed text can have there; the report names the bytes of
the broken character that were read so far.
-/

namespace Flowchart.Text

/-- Why bytes are not UTF-8.  The positions count bytes from the start of the file. -/
inductive Utf8Error where
  /-- `byte` at `position` starts no character. -/
  | invalidStart (byte : UInt8) (position : Nat)
  /-- The `length` bytes from `position`, of which `byte` is the first, begin a character that
  the next byte does not continue. -/
  | invalidContinuation (byte : UInt8) (position length : Nat)
  /-- The last `length` bytes, of which `byte` is the first, begin a character that is cut off. -/
  | unexpectedEnd (byte : UInt8) (position length : Nat)
deriving DecidableEq

/-- The report on bytes that are not UTF-8. -/
def Utf8Error.message : Utf8Error → Text
  | .invalidStart byte position => oneByte byte position ++ "invalid start byte"
  | .invalidContinuation byte position length =>
    bytes byte position length ++ "invalid continuation byte"
  | .unexpectedEnd byte position length => bytes byte position length ++ "unexpected end of data"
where
  /-- Names a single byte. -/
  oneByte (byte : UInt8) (position : Nat) : Text :=
    "'utf-8' codec can't decode byte 0x" ++ hexDigits 2 byte.toNat ++
      " in position " ++ Numeral.text position ++ ": "
  /-- Names one byte by its value and several by their positions. -/
  bytes (byte : UInt8) (position length : Nat) : Text :=
    if length = 1 then oneByte byte position
    else "'utf-8' codec can't decode bytes in position " ++ Numeral.text position ++ "-" ++
      Numeral.text (position + length - 1) ++ ": "

namespace Utf8

/-- Whether a byte can follow the first byte of a character. -/
def isContinuation (b : UInt8) : Bool :=
  0x80 ≤ b && b < 0xC0

/-- The six bits that a byte after the first contributes to a code point. -/
def payload (b : UInt8) : Nat :=
  b.toNat % 64

/-- Whether `b` can be the second byte of a character of three or four bytes that starts with
`a`: a continuation that neither wastes a byte, nor leaves Unicode, nor names a surrogate. -/
def isSecond (a b : UInt8) : Bool :=
  isContinuation b &&
    (if a = 0xE0 then 0xA0 ≤ b
     else if a = 0xED then b < 0xA0
     else if a = 0xF0 then 0x90 ≤ b
     else if a = 0xF4 then b < 0x90
     else true)

/-- What stands at the start of a byte sequence: a character and the number of its bytes, or a
fault. -/
inductive Head where
  | char (c : Char) (size : Nat)
  | invalidStart
  | invalidContinuation (length : Nat)
  | unexpectedEnd (length : Nat)

/-- Reads a character whose first byte is `a`. -/
def head (a : UInt8) (rest : List UInt8) : Head :=
  if a < 0x80 then .char (Char.ofNat a.toNat) 1
  else if a < 0xC2 || 0xF4 < a then .invalidStart
  else if a < 0xE0 then
    match rest with
    | [] => .unexpectedEnd 1
    | b :: _ =>
      if isContinuation b then .char (Char.ofNat (a.toNat % 32 * 64 + payload b)) 2
      else .invalidContinuation 1
  else if a < 0xF0 then
    match rest with
    | [] => .unexpectedEnd 1
    | b :: rest =>
      if !isSecond a b then .invalidContinuation 1
      else
        match rest with
        | [] => .unexpectedEnd 2
        | c :: _ =>
          if isContinuation c then
            .char (Char.ofNat ((a.toNat % 16 * 64 + payload b) * 64 + payload c)) 3
          else .invalidContinuation 2
  else
    match rest with
    | [] => .unexpectedEnd 1
    | b :: rest =>
      if !isSecond a b then .invalidContinuation 1
      else
        match rest with
        | [] => .unexpectedEnd 2
        | c :: rest =>
          if !isContinuation c then .invalidContinuation 2
          else
            match rest with
            | [] => .unexpectedEnd 3
            | d :: _ =>
              if isContinuation d then
                .char (Char.ofNat
                  (((a.toNat % 8 * 64 + payload b) * 64 + payload c) * 64 + payload d)) 4
              else .invalidContinuation 3

/-- Reads the characters of a byte sequence that starts at `position`, after skipping `skip`
bytes that belong to a character read before.  The characters are collected in reverse. -/
def decodeFrom (position skip : Nat) (acc : Text) :
    List UInt8 → Except Utf8Error Text
  | [] => .ok acc.reverse
  | a :: rest =>
    match skip with
    | skip + 1 => decodeFrom (position + 1) skip acc rest
    | 0 =>
      match head a rest with
      | .char c size => decodeFrom (position + 1) (size - 1) (c :: acc) rest
      | .invalidStart => .error (.invalidStart a position)
      | .invalidContinuation n => .error (.invalidContinuation a position n)
      | .unexpectedEnd n => .error (.unexpectedEnd a position n)

/-- Reads a byte sequence as UTF-8. -/
def decode (bytes : List UInt8) : Except Utf8Error Text :=
  decodeFrom 0 0 [] bytes

end Utf8

/-- Turns every carriage return, and every carriage return with its line feed, into a line
feed. -/
def unifyLineEnds : Text → Text
  | [] => []
  | .scalar '\r' :: .scalar '\n' :: cs => '\n' :: unifyLineEnds cs
  | c :: cs => (if c = '\r' then '\n' else c) :: unifyLineEnds cs

end Flowchart.Text
