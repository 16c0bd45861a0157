import SpanLexer.Expr.Build

/-!
Grammars: running patterns that refer to each other by name.

A late callable runs the pattern that has its name when it is called, so a pattern may come to
run itself. How deep calls can be nested is bounded by the library and the window: calls that are
under way at once and are the same callable at the same position would go on for ever, and there
are no more callables than the patterns are made of and no more positions than the window has.
-/
namespace SpanLexer

mutual

/-- The number of callables an expression is made of. -/
def Expr.weight : Expr → Nat
  | .seq parts _ => Expr.weights parts
  | .choice alternatives _ => Expr.weights alternatives
  | .operator _ first second => first.weight + second.weight
  | .star body _ => body.weight
  | .plus body _ => body.weight
  | .times body _ _ => body.weight
  | .optional body _ => body.weight
  | .observed body _ => body.weight
  | .labelled body _ => body.weight
  | .late _ => 1
  | .script _ actions => 1 + Action.weights actions
  | _ => 0

/-- The number of callables several expressions are made of. -/
def Expr.weights : List Expr → Nat
  | [] => 0
  | expression :: others => expression.weight + Expr.weights others

/-- The number of callables an action is made of. -/
def Action.weight : Action → Nat
  | .call expression => expression.weight
  | _ => 0

/-- The number of callables several actions are made of. -/
def Action.weights : List Action → Nat
  | [] => 0
  | action :: others => action.weight + Action.weights others

end

/-- The number of callables a callable is made of, itself included. -/
def Callable.weight : Callable → Nat
  | .late _ => 1
  | .script actions => 1 + Action.weights actions

mutual

/-- The number of callables a pattern is made of. -/
def Pattern.weight : Pattern Callable → Nat
  | .seq parts _ => Pattern.weights parts
  | .choice alternatives _ => Pattern.weights alternatives
  | .star body _ => body.weight
  | .plus body _ => body.weight
  | .times body _ _ => body.weight
  | .optional body _ => body.weight
  | .observed body _ => body.weight
  | .labelled _ body => body.weight
  | .callable _ target => target.weight
  | .unit _ _ _ => 0
  | .literal _ _ => 0
  | .inert _ _ => 0

/-- The number of callables several patterns are made of. -/
def Pattern.weights : List (Pattern Callable) → Nat
  | [] => 0
  | part :: others => part.weight + Pattern.weights others

end

namespace Action

open Scan

/-- Performs actions until one of them gives an answer; no answer is no match. `evaluate` builds
and runs an expression, and `start` is where the cursor was when the callable was called. -/
def perform (evaluate : Expr → Matcher) (start : Nat) : List Action → Matcher
  | [] => return none
  | .advance amount :: others => do
    Scan.advance amount
    perform evaluate start others
  | .seek target :: others => do
    Scan.seek target
    perform evaluate start others
  | .shift distance :: others => do
    let here ← position
    Scan.seek (here + distance)
    perform evaluate start others
  | .expect text :: others => do
    if ← startsWith text then perform evaluate start others else return none
  | .peek index :: others => do
    let unit ← unitAt index
    emit (.peeked unit)
    perform evaluate start others
  | .note text :: others => do
    let here ← position
    emit (.noted text here)
    perform evaluate start others
  | .raise message :: _ => Scan.raise (.raised message)
  | .call expression :: others => do
    match ← evaluate expression with
    | none => return none
    | some _ => perform evaluate start others
  | .giveUp :: _ => return none
  | .give :: _ => return some (← spanFrom start)
  | .giveFrom since :: _ => return some (← spanFrom since)
  | .giveSpan first last :: _ => return some ⟨first, last⟩

end Action

namespace Build

/-- The lists that were opened, and then what was built or the reason against it. -/
def report {α : Type} (built : Build α) : Scan α where
  run cursor := ⟨built.result, cursor.position, built.opened.map .opened⟩

end Build

namespace Part

/-- Runs a part as it is; a datum cannot be run. -/
def run (call : Callable → Matcher) : Part → Matcher
  | .pattern built => built.run call
  | .callable _ target => call target
  | .datum value => Scan.raise (.notCallable value.typeName)

end Part

namespace Library

/-- The matcher of a callable, with calls nested no deeper than the bound. -/
def call (library : Library) : Nat → Callable → Matcher
  | 0, _ => Scan.raise .endless
  | depth + 1, .late name =>
    match library.lookup name with
    | none => Scan.raise (.unknownName name)
    | some pattern => Scan.delay fun _ => pattern.run (library.call depth)
  | depth + 1, .script actions => do
    let start ← Scan.position
    Action.perform
      (fun expression => do
        let part ← (expression.build library).report
        part.run (library.call depth))
      start actions

/-- The number of callables the patterns of a library are made of. -/
def weight (library : Library) : Nat :=
  Pattern.weights (library.map Prod.snd)

/-- How deep calls can be nested in a run of a pattern over a window of the given extent. -/
def depth (library : Library) (pattern : Pattern Callable) (extent : Nat) : Nat :=
  (library.weight + pattern.weight) * (extent + 1) + 1

/-- The matcher of a pattern whose callables refer to a library. -/
def run (library : Library) (pattern : Pattern Callable) : Matcher := do
  let extent ← Scan.extent
  pattern.run (library.call (library.depth pattern extent))

end Library

end SpanLexer
