import Flowchart.Text.Printable

/-! # Quoted text

Text is quoted between single quotes, or between double quotes when it holds a single quote and
no double quote.  Inside, the enclosing quote and the backslash are escaped by a backslash, tab,
line feed and carriage return have letters of their own, and every other code point that is not
printable is written by its number in hexadecimal with two, four or eight digits.
-/

namespace Flowchart.Text

namespace Quoted

/-- The quote that encloses a text. -/
def quoteFor (cs : Text) : CodePoint :=
  if cs.contains '\x27' && !cs.contains '"' then '"' else '\x27'

/-- How one code point is written between two `quote`s. -/
def escape (quote c : CodePoint) : Text :=
  if c = quote || c = '\\' then ['\\', c]
  else if c = '\t' then ['\\', 't']
  else if c = '\n' then ['\\', 'n']
  else if c = '\r' then ['\\', 'r']
  else if isPrintable c then [c]
  else if c.value < 0x100 then '\\' :: 'x' :: hexDigits 2 c.value
  else if c.value < 0x10000 then '\\' :: 'u' :: hexDigits 4 c.value
  else '\\' :: 'U' :: hexDigits 8 c.value

end Quoted

/-- A text between quotes. -/
def quoted (t : Text) : Text :=
  let quote := Quoted.quoteFor t
  quote :: t.flatMap (Quoted.escape quote) ++ [quote]

end Flowchart.Text
