import SpanLexer.Pattern.Unit

/-!
Recipes: patterns for tokens that occur in many languages.

The observer of a recipe sits on the part that carries the value: the body of a quoted string, the
address inside a report, the digits after a prefix; for the others it is the whole token.
-/
namespace SpanLexer

/-- The tokens there is a recipe for. -/
inductive Recipe where
  /-- At least one character between double quotes. -/
  | quotedString
  /-- Four groups of digits with points between them. -/
  | dottedAddress
  /-- A modem's answer that reports an address. -/
  | addressReport
  /-- Digits after an optional sign. -/
  | signedInteger
  /-- Hexadecimal digits after `0x`. -/
  | hexNumber
  deriving DecidableEq, Repr

namespace Recipe

variable {κ : Type}

/-- One pattern and then the other, unobserved. -/
def both (first second : Pattern κ) : Pattern κ :=
  .seq [first, second] .silent

/-- At least one digit. -/
def digits : Pattern κ :=
  .plus (.ofClass .digit .silent) .silent

/-- Two line breaks, each of either kind. -/
def guard : Pattern κ :=
  .times (.ofClass .lineBreak .silent) 2 .silent

/-- At least one character between double quotes. -/
def quotedText (observer : Observer) : Pattern κ :=
  both
    (both (.character '\x22' .silent) (.plus (.noneOf ['\x22'] .silent) observer))
    (.character '\x22' .silent)

/-- Four groups of digits with points between them. -/
def address (observer : Observer) : Pattern κ :=
  .seq [digits, .times (both (.character '.' .silent) digits) 3 .silent] observer

/-- An address after the word that announces it, between two guards. -/
def report (observer : Observer) : Pattern κ :=
  both
    (both (both guard (.literal "+CGPADDR: ".toList .silent)) (address observer))
    guard

/-- Digits after an optional sign. -/
def integer (observer : Observer) : Pattern κ :=
  .seq [.optional (.anyOf ['+', '-'] .silent) .silent, digits] observer

/-- Hexadecimal digits after `0x`. -/
def hexadecimal (observer : Observer) : Pattern κ :=
  both (.literal ['0', 'x'] .silent) (.plus (.ofClass .hexDigit .silent) observer)

/-- The pattern of a recipe. -/
def pattern (observer : Observer) : Recipe → Pattern κ
  | .quotedString => quotedText observer
  | .dottedAddress => address observer
  | .addressReport => report observer
  | .signedInteger => integer observer
  | .hexNumber => hexadecimal observer

end Recipe

end SpanLexer
