import SpanLexer.Span

/-!
Events: what a run leaves behind besides its outcome.

A run appends to its trace and never takes back, so a trace also tells of branches that were
given up. Every event holds the position the cursor had, where that says something.
-/
namespace SpanLexer

/-- Where an observer puts what it is told. -/
inductive Sink where
  | log (id : String)
  | list (name : String)
  deriving DecidableEq, Repr

/-- Something that happened in a run. -/
inductive Event where
  /-- A predicate was asked about the unit at a position; `shown` is whether it asked to have its
  calls logged. -/
  | tested (position : Nat) (unit : Char) (shown : Bool)
  /-- An observer was told a span of the given text while the cursor was at a position. -/
  | observed (sink : Sink) (span : Span) (text : List Char) (position : Nat)
  /-- A repetition stopped because the labelled pattern matched the empty span. -/
  | emptyRound (label : String)
  /-- A callable looked at a unit. -/
  | peeked (unit : Char)
  /-- A callable left a note. -/
  | noted (text : String) (position : Nat)
  /-- An observer collecting into the named list was made. -/
  | opened (list : String)
  deriving DecidableEq

/-- Everything that happened, in order. -/
abbrev Trace := List Event

namespace Event

/-- The text of a warning about a repetition that stopped. -/
def warning? : Event → Option String
  | .emptyRound label =>
    some (label ++ " matched empty input inside a repetition, stopping the repetition")
  | _ => none

end Event

end SpanLexer
