import Flowchart.Text.Basic

/-! # Blank characters

A character is blank when it has the Unicode property `White_Space` or is one of the four
information separators U+001C to U+001F.  Blank characters are stripped from both ends of a value
typed by a user, and a run of them is replaced by one underscore in a variable.
-/

namespace Flowchart.Text

/-- The blank characters, in increasing order. -/
def blankSpans : List Span := [
  ⟨0x9, 0xD⟩, ⟨0x1C, 0x20⟩, ⟨0x85, 0x85⟩, ⟨0xA0, 0xA0⟩, ⟨0x1680, 0x1680⟩, ⟨0x2000, 0x200A⟩,
  ⟨0x2028, 0x2029⟩, ⟨0x202F, 0x202F⟩, ⟨0x205F, 0x205F⟩, ⟨0x3000, 0x3000⟩]

/-- Whether `c` is blank. -/
def isBlank (c : CodePoint) : Bool :=
  Span.covered blankSpans c

/-- Removes the blank characters at both ends. -/
def strip (cs : Text) : Text :=
  ((cs.dropWhile isBlank).reverse.dropWhile isBlank).reverse

end Flowchart.Text
