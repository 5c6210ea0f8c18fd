/-! # Texts

A text is a list of code points.  Besides characters it may hold surrogates: JSON can name half
of a surrogate pair on its own, and such a half is kept as it is.  Ordinary strings and characters
stand for the texts and code points they spell.  Reports are joined from lines and from parts that
may be missing, code points and bytes are written in hexadecimal digits, and classes of code points
are given by spans.
-/

namespace Flowchart

/-- A code point: a character or a surrogate. -/
inductive CodePoint where
  | scalar (c : Char)
  /-- The surrogate `0xD800 + offset`. -/
  | surrogate (offset : Fin 0x800)
deriving DecidableEq

namespace CodePoint

instance : Coe Char CodePoint :=
  ⟨.scalar⟩

/-- The number of a code point. -/
def value : CodePoint → Nat
  | .scalar c => c.toNat
  | .surrogate offset => 0xD800 + offset

/-- The code point with a number. -/
def ofNat (n : Nat) : CodePoint :=
  if h : 0xD800 ≤ n ∧ n < 0xE000 then .surrogate ⟨n - 0xD800, by omega⟩
  else .scalar (Char.ofNat n)

/-- A code point is the one with its number. -/
@[simp] theorem ofNat_value (c : CodePoint) : ofNat c.value = c := by
  cases c with
  | scalar c =>
    have h : ¬ (0xD800 ≤ c.toNat ∧ c.toNat < 0xE000) := by
      have hc : c.toNat.isValidChar := c.valid
      rcases hc with hc | ⟨hc, _⟩
      · omega
      · omega
    simp [ofNat, value, h]
  | surrogate offset =>
    have h : 0xD800 ≤ 0xD800 + offset.val ∧ 0xD800 + offset.val < 0xE000 := by omega
    simp [ofNat, value, h]

/-- Whether a code point is a surrogate. -/
def isSurrogate : CodePoint → Bool
  | .scalar _ => false
  | .surrogate _ => true

/-- A code point as a character, where U+FFFD stands for a surrogate. -/
def toChar : CodePoint → Char
  | .scalar c => c
  | .surrogate _ => '\ufffd'

end CodePoint

/-- A text. -/
abbrev Text := List CodePoint

namespace Text

/-- The text of a list of characters. -/
def ofChars (cs : List Char) : Text :=
  cs.map .scalar

/-- The text that a string spells. -/
def ofString (s : String) : Text :=
  ofChars s.toList

instance : Coe String Text :=
  ⟨ofString⟩

@[simp] theorem ofChars_inj {cs ds : List Char} : ofChars cs = ofChars ds ↔ cs = ds := by
  constructor
  · intro h
    simpa [ofChars, Function.comp_def, CodePoint.toChar] using
      congrArg (List.map CodePoint.toChar) h
  · intro h
    rw [h]

/-- Different strings spell different texts. -/
@[simp] theorem ofString_inj {s t : String} : ofString s = ofString t ↔ s = t := by
  simp [ofString, String.toList_inj]

/-- A text as a string, where U+FFFD stands for a surrogate. -/
def toString (t : Text) : String :=
  String.ofList (t.map CodePoint.toChar)

/-! ## Joining -/

/-- Joins the parts of a list with a separator. -/
def joinWith (separator : Text) : List Text → Text
  | [] => []
  | [s] => s
  | s :: ss => s ++ separator ++ joinWith separator ss

/-- A text under a heading, unless it is missing or empty. -/
def headed (heading : Text) : Option Text → Text
  | none => []
  | some s => if s.isEmpty then [] else heading ++ s

/-! ## Hexadecimal digits -/

/-- The last `width` hexadecimal digits of `n`, in lower case. -/
def hexDigits : Nat → Nat → Text
  | 0, _ => []
  | width + 1, n => hexDigits width (n / 16) ++ [.scalar (Nat.digitChar (n % 16))]

/-- The value of a hexadecimal digit, in either case. -/
def hexValue? : CodePoint → Option Nat
  | .surrogate _ => none
  | .scalar c =>
    if '0' ≤ c && c ≤ '9' then some (c.toNat - '0'.toNat)
    else if 'a' ≤ c && c ≤ 'f' then some (c.toNat - 'a'.toNat + 10)
    else if 'A' ≤ c && c ≤ 'F' then some (c.toNat - 'A'.toNat + 10)
    else none

/-! ## Classes of code points -/

/-- The code points from `first` to `last`, both included.  A class of code points is given as a list
of spans. -/
structure Span where
  first : Nat
  last : Nat
deriving DecidableEq

namespace Span

/-- Whether a code point lies in the span. -/
def covers (s : Span) (c : CodePoint) : Bool :=
  s.first ≤ c.value && c.value ≤ s.last

/-- Whether a code point lies in one of the spans. -/
def covered (spans : List Span) (c : CodePoint) : Bool :=
  spans.any (·.covers c)

end Span

end Text

end Flowchart
