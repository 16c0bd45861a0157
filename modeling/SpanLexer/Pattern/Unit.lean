import SpanLexer.Pattern

/-!
Patterns for one unit: the usual character classes, single characters and groups.
-/
namespace SpanLexer

/-- The usual classes of characters; letters and digits are the ASCII ones. -/
inductive UnitClass where
  | letter
  | lowerLetter
  | upperLetter
  | digit
  | hexDigit
  | blank
  | lineBreak
  | any
  deriving DecidableEq, Repr

namespace UnitClass

/-- The character lies between two others, both included. -/
def between (low high unit : Char) : Bool :=
  low ≤ unit && unit ≤ high

/-- The characters of a class. -/
def accepts : UnitClass → Char → Bool
  | .letter, unit => between 'a' 'z' unit || between 'A' 'Z' unit
  | .lowerLetter, unit => between 'a' 'z' unit
  | .upperLetter, unit => between 'A' 'Z' unit
  | .digit, unit => between '0' '9' unit
  | .hexDigit, unit => between '0' '9' unit || between 'a' 'f' unit || between 'A' 'F' unit
  | .blank, unit => [' ', '\t', '\r', '\n'].contains unit
  | .lineBreak, unit => ['\r', '\n'].contains unit
  | .any, _ => true

/-- What a class is called; those given as a group have no name of their own. -/
def label : UnitClass → String
  | .letter => "alphabet"
  | .lowerLetter => "lower_alphabet"
  | .upperLetter => "upper_alphabet"
  | .digit => "digit"
  | .hexDigit => "hex_digit"
  | .blank => "any_char_of"
  | .lineBreak => "any_char_of"
  | .any => "any_char"

end UnitClass

namespace Pattern

variable {κ : Type}

/-- One unit of a class. -/
def ofClass (unitClass : UnitClass) (observer : Observer) : Pattern κ :=
  .unit unitClass.label (.ofBool unitClass.accepts) observer

/-- One given character. -/
def character (wanted : Char) (observer : Observer) : Pattern κ :=
  .unit ("char_token(" ++ Quoted.quote [wanted] ++ ")") (.ofBool (· == wanted)) observer

/-- One unit of a group. -/
def anyOf (group : List Char) (observer : Observer) : Pattern κ :=
  .unit "any_char_of" (.ofBool group.contains) observer

/-- One unit that is not in a group. -/
def noneOf (group : List Char) (observer : Observer) : Pattern κ :=
  .unit "none_of" (.ofBool fun unit => !group.contains unit) observer

end Pattern

end SpanLexer
