import SpanLexer.Scan

/-!
Matchers: scans that match a span or match nothing, and the ways to combine them.

The combinators take any matchers, also ones that leave the cursor somewhere else when they match
nothing. A sequence, a choice and an exact count put the cursor back themselves. A repetition does
not: where its body stops is where it stops.

What is assumed of a predicate is that its answer depends on the unit alone: it keeps nothing from
one question to the next, and it does not move the cursor.
-/
namespace SpanLexer

/-- A scan that gives the matched span, or nothing when there is no match. -/
abbrev Matcher := Scan (Option Span)

/-- A question about one unit, which may be logged and may fail. -/
structure Predicate where
  test : Char → Except Fault Bool
  shown : Bool

namespace Predicate

/-- A predicate that always answers and is not logged. -/
def ofBool (test : Char → Bool) : Predicate :=
  ⟨fun unit => .ok (test unit), false⟩

/-- Asks about the next unit. -/
def ask (predicate : Predicate) : Scan Bool := do
  let unit ← Scan.unitAt 0
  let position ← Scan.position
  Scan.emit (.tested position unit predicate.shown)
  Scan.lift (predicate.test unit)

end Predicate

namespace Matcher

open Scan

/-- Matches everything consumed since a position, and tells the observer. -/
def conclude (start : Nat) (observer : Observer) : Matcher := do
  let span ← spanFrom start
  notify observer span
  return some span

/-- Matches one unit that the predicate accepts. The predicate is not asked when no unit
remains. -/
def unit (predicate : Predicate) (observer : Observer) : Matcher := do
  if (← remaining) = 0 then
    return none
  else if ← predicate.ask then
    let start ← position
    advance 1
    conclude start observer
  else
    return none

/-- Matches a literal. -/
def literal (text : List Char) (observer : Observer) : Matcher := do
  if ← startsWith text then
    let start ← position
    advance text.length
    conclude start observer
  else
    return none

/-- Runs matchers one after another for as long as they match, and says whether all did. -/
def allMatch : List Matcher → Scan Bool
  | [] => return true
  | matcher :: others => do
    match ← matcher with
    | none => return false
    | some _ => allMatch others

/-- Matches each of the matchers in turn, or goes back to where the first one started. -/
def seq (parts : List Matcher) (observer : Observer) : Matcher := do
  let start ← position
  if ← allMatch parts then
    conclude start observer
  else
    seek start
    return none

/-- The span of the first matcher that matches, each one starting from the same position. -/
def firstMatch (start : Nat) : List Matcher → Matcher
  | [] => return none
  | matcher :: others => do
    match ← matcher with
    | some span => return some span
    | none =>
      seek start
      firstMatch start others

/-- Tells the observer the span of a matcher, when it matches. -/
def observed (matcher : Matcher) (observer : Observer) : Matcher := do
  match ← matcher with
  | none => return none
  | some span =>
    notify observer span
    return some span

/-- Matches what the first alternative that matches does. -/
def choice (alternatives : List Matcher) (observer : Observer) : Matcher := do
  let start ← position
  match ← firstMatch start alternatives with
  | none => return none
  | some span =>
    notify observer span
    return some span

/-- Runs a matcher again and again until no unit remains, it matches nothing, or it matches an
empty span; the latter leaves a warning. Going on from more positions than the window has means
going on from one of them twice, and then the rounds would never end. -/
def rounds (label : String) (body : Matcher) : Nat → Scan Unit
  | 0 => do
    if (← remaining) = 0 then return () else raise .endless
  | bound + 1 => do
    if (← remaining) = 0 then
      return ()
    else
      match ← body with
      | none => return ()
      | some span =>
        if (← lift span.length?) = 0 then
          emit (.emptyRound label)
        else
          rounds label body bound

/-- The rounds of a matcher, as many as there can be. -/
def exhaust (label : String) (body : Matcher) : Scan Unit := do
  rounds label body (← extent)

/-- Matches the body zero or more times. -/
def star (label : String) (body : Matcher) (observer : Observer) : Matcher := do
  let start ← position
  exhaust label body
  conclude start observer

/-- Matches the body one or more times. The first time may be empty. -/
def plus (label : String) (body : Matcher) (observer : Observer) : Matcher := do
  let start ← position
  match ← body with
  | none => return none
  | some _ =>
    exhaust label body
    conclude start observer

/-- Runs a matcher for the given number of times for as long as it matches, and says whether it
always did. -/
def allTimes (body : Matcher) : Nat → Scan Bool
  | 0 => return true
  | count + 1 => do
    match ← body with
    | none => return false
    | some _ => allTimes body count

/-- Matches the body exactly the given number of times, or goes back to where it started. -/
def times (body : Matcher) (count : Nat) (observer : Observer) : Matcher := do
  let start ← position
  if ← allTimes body count then
    conclude start observer
  else
    seek start
    return none

/-- Matches what the body does, or else the empty span where the body left the cursor. -/
def optional (body : Matcher) (observer : Observer) : Matcher := do
  match ← body with
  | some span =>
    notify observer span
    return some span
  | none => conclude (← position) observer

end Matcher

end SpanLexer
