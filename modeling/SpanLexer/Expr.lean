import SpanLexer.Pattern.Recipe

/-!
Expressions: patterns as they are asked for, before anything has been checked.

Any argument of an expression may be unfit: a datum in place of a pattern, a predicate or an
observer, an empty literal, a negative count. Scripted callables are expressions too, because a
script may build and run an expression of its own.
-/
namespace SpanLexer

/-- What may be given where a text is expected. -/
inductive TextArgument where
  | text (characters : List Char)
  | octets (contents : List UInt8)
  | view
  | datum (value : Datum)

namespace TextArgument

/-- The characters of an argument; octets are read as Latin-1, and a datum may be a text. -/
def characters : TextArgument → Except Fault (List Char)
  | .text characters => .ok characters
  | .octets contents => .ok (contents.map Latin1.decode)
  | .view => .error (.malformed .viewAsText)
  | .datum (.text value) => .ok value.toList
  | .datum value => .error (.malformed (.notText value))

end TextArgument

/-- A question that may be asked about a unit. -/
inductive Question where
  /-- Is it the whole of this text? -/
  | equals (text : List Char)
  /-- Is it one of these characters? -/
  | among (group : List Char)
  /-- Does it lie between these texts in the order of code points? -/
  | within (low high : List Char)
  /-- The answer is whether the datum counts as true. -/
  | answers (value : Datum)
  /-- There is no answer: the run stops. -/
  | raises (message : String)

namespace Question

/-- The answer for a unit. -/
def test : Question → Char → Except Fault Bool
  | .equals text, unit => .ok ([unit] == text)
  | .among group, unit => .ok (group.contains unit)
  | .within low high, unit => .ok (!decide ([unit] < low) && !decide (high < [unit]))
  | .answers value, _ => .ok value.truthy
  | .raises message, _ => .error (.raised message)

end Question

/-- What may be offered as a predicate. -/
inductive Predicate.Offer where
  | question (asked : Question) (shown : Bool)
  | datum (value : Datum)

namespace Predicate.Offer

/-- The predicate an offer makes, when it can be called. -/
def accept : Predicate.Offer → Except Fault Predicate
  | .question asked shown => .ok ⟨asked.test, shown⟩
  | .datum value => .error (.malformed (.predicateNotCallable value))

end Predicate.Offer

/-- The operators, which are those of patterns. What numbers or records make of the same signs
between them is not modelled. -/
inductive Operator where
  /-- One and then the other. -/
  | and
  /-- One or else the other. -/
  | or
  deriving DecidableEq, Repr

namespace Operator

/-- An operator as it is written. -/
def symbol : Operator → String
  | .and => "&"
  | .or => "|"

/-- The composition of patterns that an operator stands for. -/
def compose {κ : Type} : Operator → List (Pattern κ) → Observer → Pattern κ
  | .and => .seq
  | .or => .choice

end Operator

mutual

/-- A pattern that is asked for. -/
inductive Expr where
  /-- One unit of a class. -/
  | ofClass (unitClass : UnitClass) (observer : Observer.Offer)
  /-- One of the recipes. -/
  | recipe (token : Recipe) (observer : Observer.Offer)
  /-- A fixed text. -/
  | literal (text : TextArgument) (observer : Observer.Offer)
  /-- One given character. -/
  | character (text : TextArgument) (observer : Observer.Offer)
  /-- One unit of a group. -/
  | anyOf (group : TextArgument) (observer : Observer.Offer)
  /-- One unit that is not in a group. -/
  | noneOf (group : TextArgument) (observer : Observer.Offer)
  /-- One unit accepted by a predicate. -/
  | unit (predicate : Predicate.Offer) (observer : Observer.Offer) (label : Option String)
  /-- Each part in turn. -/
  | seq (parts : List Expr) (observer : Observer.Offer)
  /-- The first alternative that matches. -/
  | choice (alternatives : List Expr) (observer : Observer.Offer)
  /-- An operator between two expressions, one of which has to be a pattern already. -/
  | operator (sign : Operator) (first second : Expr)
  /-- The body zero or more times. -/
  | star (body : Expr) (observer : Observer.Offer)
  /-- The body one or more times. -/
  | plus (body : Expr) (observer : Observer.Offer)
  /-- The body an exact number of times. -/
  | times (body : Expr) (count : Datum) (observer : Observer.Offer)
  /-- The body or the empty span. -/
  | optional (body : Expr) (observer : Observer.Offer)
  /-- The body under a further observer. -/
  | observed (body : Expr) (observer : Observer.Offer)
  /-- Anything, taken for a pattern under a label. -/
  | labelled (body : Expr) (label : Option String)
  /-- A value that is no pattern. -/
  | datum (value : Datum)
  /-- The pattern that has the name now. -/
  | named (name : String)
  /-- A callable that runs the pattern that has the name when it is called. -/
  | late (name : String)
  /-- A callable that performs actions. -/
  | script (label : String) (actions : List Action)

/-- A step of a scripted callable. -/
inductive Action where
  /-- Consumes units. -/
  | advance (amount : Int)
  /-- Moves to a position. -/
  | seek (target : Int)
  /-- Moves relative to the position. -/
  | shift (distance : Int)
  /-- Matches nothing unless the remaining units start with the text. -/
  | expect (text : List Char)
  /-- Looks at a remaining unit. -/
  | peek (index : Int)
  /-- Leaves a note. -/
  | note (text : String)
  /-- Stops the run. -/
  | raise (message : String)
  /-- Builds an expression and runs it, and matches nothing unless it matches. -/
  | call (expression : Expr)
  /-- Matches nothing. -/
  | giveUp
  /-- Matches everything consumed since the callable was called. -/
  | give
  /-- Matches everything consumed since a position. -/
  | giveFrom (start : Int)
  /-- Matches a span whatever has been consumed. -/
  | giveSpan (start stop : Int)

end

namespace Expr

/-- One expression and then the other. -/
def and (first second : Expr) : Expr :=
  .operator .and first second

/-- One expression or else the other. -/
def or (first second : Expr) : Expr :=
  .operator .or first second

end Expr

/-- A plain callable over a cursor. -/
inductive Callable where
  /-- Runs the pattern that has the name when it is called. -/
  | late (name : String)
  /-- Performs actions. -/
  | script (actions : List Action)

/-- Patterns by name; a later definition comes first. -/
abbrev Library := List (String × Pattern Callable)

end SpanLexer
