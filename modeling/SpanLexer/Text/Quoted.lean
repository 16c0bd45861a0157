import SpanLexer.Text.Unprintable

/-!
Quoted text, as it stands in labels and messages.

A text is put between single quotes, or between double quotes when it holds a single quote and no
double one. The quote in use and the backslash get a backslash in front; an unprintable character
is written by its code point with the fewest of two, four or eight hexadecimal digits.
-/
namespace SpanLexer.Quoted

/-- The quote a text is put between. -/
def mark (text : List Char) : Char :=
  if text.contains '\x27' && !text.contains '\x22' then '\x22' else '\x27'

/-- The lowest `width` hexadecimal digits of a number. -/
def hex : Nat → Nat → List Char
  | 0, _ => []
  | width + 1, n => hex width (n / 16) ++ [Nat.digitChar (n % 16)]

/-- A character by its code point. -/
def byCodePoint (unit : Char) : List Char :=
  let n := unit.toNat
  if n < 0x100 then '\\' :: 'x' :: hex 2 n
  else if n < 0x10000 then '\\' :: 'u' :: hex 4 n
  else '\\' :: 'U' :: hex 8 n

/-- How one character of a text stands between the given quotes. -/
def escape (quote unit : Char) : List Char :=
  if unit = quote ∨ unit = '\\' then ['\\', unit]
  else if unit = '\n' then ['\\', 'n']
  else if unit = '\r' then ['\\', 'r']
  else if unit = '\t' then ['\\', 't']
  else if Unprintable.holds unit then byCodePoint unit
  else [unit]

/-- A text between quotes. -/
def quote (text : List Char) : String :=
  let bound := mark text
  String.ofList (bound :: text.flatMap (escape bound) ++ [bound])

end SpanLexer.Quoted
