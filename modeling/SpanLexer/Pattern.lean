import SpanLexer.Matcher

/-!
Patterns: compositions of unit tests, literals, sequences, choices and repetitions.

A pattern is data; `run` gives its matcher and `label` what it is called. Its leaves may be
callables of any type `κ`, whose matchers are supplied when the pattern is run, so a pattern does
not depend on what its callables refer to.
-/
namespace SpanLexer

/-- A composition of patterns over callables of type `κ`, with the observers of its parts. -/
inductive Pattern (κ : Type) where
  /-- One unit accepted by a predicate. -/
  | unit (label : String) (predicate : Predicate) (observer : Observer)
  /-- A fixed text. -/
  | literal (text : List Char) (observer : Observer)
  /-- Each part in turn. -/
  | seq (parts : List (Pattern κ)) (observer : Observer)
  /-- The first alternative that matches. -/
  | choice (alternatives : List (Pattern κ)) (observer : Observer)
  /-- The body zero or more times. -/
  | star (body : Pattern κ) (observer : Observer)
  /-- The body one or more times. -/
  | plus (body : Pattern κ) (observer : Observer)
  /-- The body an exact number of times. -/
  | times (body : Pattern κ) (count : Nat) (observer : Observer)
  /-- The body or the empty span. -/
  | optional (body : Pattern κ) (observer : Observer)
  /-- The body under a further observer. -/
  | observed (body : Pattern κ) (observer : Observer)
  /-- The body under a label of its own. -/
  | labelled (label : String) (body : Pattern κ)
  /-- A callable. -/
  | callable (label : String) (target : κ)
  /-- A value of the named type that cannot be run. -/
  | inert (label typeName : String)

namespace Pattern

variable {κ : Type}

/-- A label, or another one when it is empty. -/
def labelOr (label otherwise : String) : String :=
  if label.isEmpty then otherwise else label

mutual

/-- What a pattern is called: the labels of its parts, joined or put in brackets. A composition
whose label would be empty has one of its own. -/
def label : Pattern κ → String
  | .unit label _ _ => label
  | .literal text _ => "str_token(" ++ Quoted.quote text ++ ")"
  | .seq parts _ => labelOr (" & ".intercalate (labels parts)) "bind_tokenizer"
  | .choice alternatives _ => labelOr (" | ".intercalate (labels alternatives)) "one_of_tokenizer"
  | .star body _ => "repeated(" ++ body.label ++ ")"
  | .plus body _ => "at_least_one(" ++ body.label ++ ")"
  | .times body count _ => "exactly(" ++ body.label ++ ", " ++ toString count ++ ")"
  | .optional body _ => "maybe(" ++ body.label ++ ")"
  | .observed body _ => labelOr body.label "observed_tokenizer"
  | .labelled label _ => label
  | .callable label _ => label
  | .inert label _ => label

/-- What each of the patterns is called. -/
def labels : List (Pattern κ) → List String
  | [] => []
  | part :: others => part.label :: labels others

end

/-- A pattern as it is written. -/
def render (pattern : Pattern κ) : String :=
  "Tokenizer(" ++ pattern.label ++ ")"

mutual

/-- The matcher of a pattern, given those of its callables. -/
def run (call : κ → Matcher) : Pattern κ → Matcher
  | .unit _ predicate observer => Matcher.unit predicate observer
  | .literal text observer => Matcher.literal text observer
  | .seq parts observer => Matcher.seq (runEach call parts) observer
  | .choice alternatives observer => Matcher.choice (runEach call alternatives) observer
  | .star body observer => Matcher.star body.label (body.run call) observer
  | .plus body observer => Matcher.plus body.label (body.run call) observer
  | .times body count observer => Matcher.times (body.run call) count observer
  | .optional body observer => Matcher.optional (body.run call) observer
  | .observed body observer => Matcher.observed (body.run call) observer
  | .labelled _ body => body.run call
  | .callable _ target => call target
  | .inert _ typeName => Scan.raise (.notCallable typeName)

/-- The matchers of several patterns. -/
def runEach (call : κ → Matcher) : List (Pattern κ) → List Matcher
  | [] => []
  | part :: others => part.run call :: runEach call others

end

theorem labels_eq_map (parts : List (Pattern κ)) : labels parts = parts.map label := by
  induction parts with
  | nil => simp [labels]
  | cons part others ih => simp [labels, ih]

theorem runEach_eq_map (call : κ → Matcher) (parts : List (Pattern κ)) :
    runEach call parts = parts.map (run call) := by
  induction parts with
  | nil => simp [runEach]
  | cons part others ih => simp [runEach, ih]

end Pattern

end SpanLexer
