import SpanLexer.Fault

/-!
Observers: who is told the spans that a pattern matches.

An `Observer` is one that can be told a single span. What is offered as an observer is an
`Observer.Offer`; `Offer.accept` checks it, before anything is matched, against the parameters
that a callable is known to take.

What is assumed of an observer, and checked by nothing here: it is told a span and does not get hold
of the cursor, so being told never moves it; and whether it stops the run does not depend on what it
has been told before.
-/
namespace SpanLexer

/-- An observer that can be told a span. -/
inductive Observer where
  /-- Ignores what it is told. -/
  | silent
  /-- Logs every span under its id. -/
  | record (id : String)
  /-- Puts the text of every span at the end of the named list. -/
  | collect (list : String)
  /-- Logs the span under its id and then stops the run. -/
  | interrupt (id message : String)
  deriving DecidableEq, Repr

namespace Observer

/-- How a parameter takes its argument. -/
inductive Passing where
  /-- Only by position. -/
  | position
  /-- By position or by name. -/
  | positionOrName
  /-- All further arguments by position. -/
  | allPositions
  /-- Only by name. -/
  | name
  /-- All further arguments by name. -/
  | allNames
  deriving DecidableEq, Repr

/-- A parameter of a callable. -/
structure Parameter where
  name : String
  passing : Passing
  hasDefault : Bool
  deriving DecidableEq, Repr

/-- The parameter takes an argument by position. -/
def Parameter.takesPosition (parameter : Parameter) : Bool :=
  match parameter.passing with
  | .position | .positionOrName | .allPositions => true
  | .name | .allNames => false

/-- The parameter has to be given an argument. -/
def Parameter.isRequired (parameter : Parameter) : Bool :=
  match parameter.passing with
  | .position | .positionOrName | .name => !parameter.hasDefault
  | .allPositions | .allNames => false

/-- Why a callable with these parameters cannot be called with one argument by position, if it
cannot. -/
def refusal? (id : String) : List Parameter → Option Malformed
  | [] => some (.observerTakesNothing id)
  | first :: others =>
    if first.takesPosition then
      (others.find? Parameter.isRequired).map fun missing => .observerNeedsMore id missing.name
    else some (.observerTakesNothing id)

/-- What may be offered as an observer. -/
inductive Offer where
  /-- Nothing is offered. -/
  | absent
  /-- The observer that ignores what it is told. -/
  | silent
  /-- A collector into the named list. -/
  | collector (list : String)
  /-- A logging callable, with its parameters when they are known. -/
  | logger (id : String) (parameters : Option (List Parameter))
  /-- A callable of one parameter that logs and then stops the run. -/
  | interrupter (id message : String)
  /-- A datum, which cannot be called. -/
  | datum (value : Datum)

namespace Offer

/-- Nothing is offered, whether by leaving it out or by saying so. -/
def isAbsent : Offer → Bool
  | .absent => true
  | .datum .null => true
  | _ => false

/-- The observer an offer makes: the silent one when nothing is offered, the offered one when it
can be called with one span. -/
def accept : Offer → Except Fault Observer
  | .absent => .ok .silent
  | .silent => .ok .silent
  | .collector list => .ok (.collect list)
  | .logger id none => .ok (.record id)
  | .logger id (some parameters) =>
    match refusal? id parameters with
    | some why => .error (.malformed why)
    | none => .ok (.record id)
  | .interrupter id message => .ok (.interrupt id message)
  | .datum .null => .ok .silent
  | .datum value => .error (.malformed (.observerNotCallable value))

end Offer

end Observer

end SpanLexer
