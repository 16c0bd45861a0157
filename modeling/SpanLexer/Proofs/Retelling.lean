import SpanLexer.Proofs.Combinators
import SpanLexer.Proofs.Demand
import Mathlib.Data.List.Forall2

/-!
The same pattern with other observers.

`Pattern.retell` puts other observers on the nodes of a pattern and leaves everything else as it
is. What this does to a run is said by a `Comparison`: a relation between scans that every plain
step of a pattern has to itself and that sequencing preserves. As soon as such a relation holds
between telling the old observer and telling the new one, it holds between the runs of the two
patterns. No combinator gets to know who is listening.
-/
namespace SpanLexer

namespace Pattern

variable {κ : Type}

mutual

/-- The pattern with the observer of every node changed. -/
def retell (change : Observer → Observer) : Pattern κ → Pattern κ
  | .unit label predicate observer => .unit label predicate (change observer)
  | .literal text observer => .literal text (change observer)
  | .seq parts observer => .seq (retellEach change parts) (change observer)
  | .choice alternatives observer => .choice (retellEach change alternatives) (change observer)
  | .star body observer => .star (body.retell change) (change observer)
  | .plus body observer => .plus (body.retell change) (change observer)
  | .times body count observer => .times (body.retell change) count (change observer)
  | .optional body observer => .optional (body.retell change) (change observer)
  | .observed body observer => .observed (body.retell change) (change observer)
  | .labelled label body => .labelled label (body.retell change)
  | .callable label target => .callable label target
  | .inert label typeName => .inert label typeName

/-- The patterns with the observer of every node changed. -/
def retellEach (change : Observer → Observer) : List (Pattern κ) → List (Pattern κ)
  | [] => []
  | part :: others => part.retell change :: retellEach change others

end

theorem retellEach_eq_map (change : Observer → Observer) (parts : List (Pattern κ)) :
    retellEach change parts = parts.map (retell change) := by
  induction parts with
  | nil => simp [retellEach]
  | cons part others ih => simp [retellEach, ih]

mutual

/-- What a pattern is called does not depend on its observers. -/
theorem label_retell (change : Observer → Observer) (pattern : Pattern κ) :
    (pattern.retell change).label = pattern.label := by
  match pattern with
  | .unit .. => simp only [retell, label]
  | .literal .. => simp only [retell, label]
  | .seq parts _ => simp only [retell, label, labels_retellEach change parts]
  | .choice alternatives _ => simp only [retell, label, labels_retellEach change alternatives]
  | .star body _ => simp only [retell, label, label_retell change body]
  | .plus body _ => simp only [retell, label, label_retell change body]
  | .times body _ _ => simp only [retell, label, label_retell change body]
  | .optional body _ => simp only [retell, label, label_retell change body]
  | .observed body _ => simp only [retell, label, label_retell change body]
  | .labelled .. => simp only [retell, label]
  | .callable .. => simp only [retell, label]
  | .inert .. => simp only [retell, label]
termination_by structural pattern

theorem labels_retellEach (change : Observer → Observer) (parts : List (Pattern κ)) :
    labels (retellEach change parts) = labels parts := by
  match parts with
  | [] => simp only [retellEach]
  | part :: others =>
    simp only [retellEach, labels, label_retell change part, labels_retellEach change others]
termination_by structural parts

end

end Pattern

/-- Where an event was put down, if an observer was told something. -/
def Event.sink? : Event → Option Sink
  | .observed sink _ _ _ => some sink
  | _ => none

/-- A single step of a pattern that is its own and that no observer hears of. -/
inductive Scan.Plain : {α : Type} → Scan α → Prop where
  | ask {α : Type} (question : Cursor → α) : Plain (Scan.ask question)
  | unitAt (index : Int) : Plain (Scan.unitAt index)
  | seek (target : Int) : Plain (Scan.seek target)
  | advance (amount : Int) : Plain (Scan.advance amount)
  | emit (unheard : event.sink? = none) : Plain (Scan.emit event)
  | measure (span : Span) : Plain (Scan.lift span.length?)
  | endless {α : Type} : Plain (Scan.raise .endless : Scan α)

/-- A relation between scans that no sequencing breaks and that the plain steps have to themselves.
A property of scans is one that looks at the first of them only. -/
structure Comparison where
  related {α : Type} : Scan α → Scan α → Prop
  plain {α : Type} {scan : Scan α} : scan.Plain → related scan scan
  bind {α β : Type} {one two : Scan α} {next next' : α → Scan β} : related one two →
    (∀ value, related (next value) (next' value)) → related (one >>= next) (two >>= next')

namespace Comparison
open Scan Matcher

variable {comparison : Comparison}

/-- Whatever span the two observers are told, telling the one is related to telling the other. -/
def Told (comparison : Comparison) (observer other : Observer) : Prop :=
  ∀ span, comparison.related (notify observer span) (notify other span)

/-- Asking the predicate about a unit is related to itself. -/
def Asked (comparison : Comparison) (predicate : Predicate) : Prop :=
  ∀ unit, comparison.related (lift (predicate.test unit)) (lift (predicate.test unit))

/-- What is found by looking at the cursor is the same on both sides. -/
theorem ask_bind {question : Cursor → α} {next next' : α → Scan β}
    (later : ∀ value, comparison.related (next value) (next' value)) :
    comparison.related (ask question >>= next) (ask question >>= next') :=
  comparison.bind (comparison.plain (.ask question)) later

theorem pure_self (value : α) : comparison.related (pure value) (pure value) :=
  comparison.plain (.ask fun _ => value)

theorem related_notify (told : comparison.Told observer other) (span : Span) :
    comparison.related (notify observer span >>= fun _ => pure (some span))
      (notify other span >>= fun _ => pure (some span)) :=
  comparison.bind (told span) fun _ => pure_self _

theorem related_conclude (told : comparison.Told observer other) (start : Nat) :
    comparison.related (conclude start observer) (conclude start other) := by
  unfold conclude
  refine ask_bind ?_
  intro span
  exact related_notify told span

theorem related_ask_predicate (asked : comparison.Asked predicate) :
    comparison.related predicate.ask predicate.ask := by
  unfold Predicate.ask
  refine comparison.bind (comparison.plain (.unitAt 0)) ?_
  intro unit
  refine ask_bind ?_
  intro position
  refine comparison.bind (comparison.plain (.emit rfl)) ?_
  intro _
  exact asked unit

theorem related_unit (asked : comparison.Asked predicate) (told : comparison.Told observer other) :
    comparison.related (unit predicate observer) (unit predicate other) := by
  unfold unit
  refine ask_bind ?_
  intro left
  split
  · exact pure_self none
  · refine comparison.bind (related_ask_predicate asked) ?_
    intro answer
    split
    · refine ask_bind ?_
      intro start
      refine comparison.bind (comparison.plain (.advance _)) ?_
      intro _
      exact related_conclude told start
    · exact pure_self none

theorem related_literal (told : comparison.Told observer other) (text : List Char) :
    comparison.related (literal text observer) (literal text other) := by
  unfold literal
  refine ask_bind ?_
  intro stands
  split
  · refine ask_bind ?_
    intro start
    refine comparison.bind (comparison.plain (.advance _)) ?_
    intro _
    exact related_conclude told start
  · exact pure_self none

theorem related_allMatch {parts parts' : List Matcher}
    (each : List.Forall₂ comparison.related parts parts') :
    comparison.related (allMatch parts) (allMatch parts') := by
  induction each with
  | nil => exact pure_self true
  | cons head _ ih =>
    unfold allMatch
    refine comparison.bind head ?_
    intro matched
    cases matched with
    | none => exact pure_self false
    | some span => exact ih

theorem related_seq {parts parts' : List Matcher}
    (each : List.Forall₂ comparison.related parts parts')
    (told : comparison.Told observer other) :
    comparison.related (seq parts observer) (seq parts' other) := by
  unfold seq
  refine ask_bind ?_
  intro start
  refine comparison.bind (related_allMatch each) ?_
  intro all
  split
  · exact related_conclude told start
  · refine comparison.bind (comparison.plain (.seek _)) ?_
    intro _
    exact pure_self none

theorem related_firstMatch {alternatives alternatives' : List Matcher}
    (each : List.Forall₂ comparison.related alternatives alternatives') (start : Nat) :
    comparison.related (firstMatch start alternatives) (firstMatch start alternatives') := by
  induction each with
  | nil => exact pure_self none
  | cons head _ ih =>
    unfold firstMatch
    refine comparison.bind head ?_
    intro matched
    cases matched with
    | some span => exact pure_self (some span)
    | none =>
      refine comparison.bind (comparison.plain (.seek _)) ?_
      intro _
      exact ih

theorem related_observed (bodies : comparison.related body body')
    (told : comparison.Told observer other) :
    comparison.related (observed body observer) (observed body' other) := by
  unfold observed
  refine comparison.bind bodies ?_
  intro matched
  cases matched with
  | none => exact pure_self none
  | some span => exact related_notify told span

theorem related_choice {alternatives alternatives' : List Matcher}
    (each : List.Forall₂ comparison.related alternatives alternatives')
    (told : comparison.Told observer other) :
    comparison.related (choice alternatives observer) (choice alternatives' other) := by
  rw [choice_eq_observed, choice_eq_observed]
  refine ask_bind ?_
  intro start
  exact related_observed (related_firstMatch each start) told

theorem related_round (bodies : comparison.related body body') (label : String) :
    comparison.related (round label body) (round label body') := by
  unfold Matcher.round
  refine ask_bind ?_
  intro left
  split
  · exact pure_self false
  · refine comparison.bind bodies ?_
    intro matched
    cases matched with
    | none => exact pure_self false
    | some span =>
      refine comparison.bind (comparison.plain (.measure span)) ?_
      intro length
      split
      · refine comparison.bind (comparison.plain (.emit rfl)) ?_
        intro _
        exact pure_self false
      · exact pure_self true

theorem related_rounds (bodies : comparison.related body body') (label : String) (bound : Nat) :
    comparison.related (rounds label body bound) (rounds label body' bound) := by
  induction bound with
  | zero =>
    unfold rounds
    refine ask_bind ?_
    intro left
    split
    · exact pure_self ()
    · exact comparison.plain .endless
  | succ bound ih =>
    rw [rounds_succ, rounds_succ]
    refine comparison.bind (related_round bodies label) ?_
    intro more
    split
    · exact ih
    · exact pure_self ()

theorem related_exhaust (bodies : comparison.related body body') (label : String) :
    comparison.related (exhaust label body) (exhaust label body') := by
  unfold exhaust
  refine ask_bind ?_
  intro extent
  exact related_rounds bodies label extent

theorem related_star (bodies : comparison.related body body')
    (told : comparison.Told observer other) (label : String) :
    comparison.related (star label body observer) (star label body' other) := by
  unfold Matcher.star
  refine ask_bind ?_
  intro start
  refine comparison.bind (related_exhaust bodies label) ?_
  intro _
  exact related_conclude told start

theorem related_plus (bodies : comparison.related body body')
    (told : comparison.Told observer other) (label : String) :
    comparison.related (plus label body observer) (plus label body' other) := by
  unfold plus
  refine ask_bind ?_
  intro start
  refine comparison.bind bodies ?_
  intro matched
  cases matched with
  | none => exact pure_self none
  | some span =>
    refine comparison.bind (related_exhaust bodies label) ?_
    intro _
    exact related_conclude told start

theorem related_optional (bodies : comparison.related body body')
    (told : comparison.Told observer other) :
    comparison.related (Matcher.optional body observer) (Matcher.optional body' other) := by
  unfold Matcher.optional
  refine comparison.bind bodies ?_
  intro matched
  cases matched with
  | some span => exact related_notify told span
  | none =>
    refine ask_bind ?_
    intro position
    exact related_conclude told position

/-- The change of observers is one the comparison bears, and what is not of the pattern's own making
is related to itself. -/
def parts (comparison : Comparison) (call : κ → Matcher) (change : Observer → Observer) :
    Demand κ where
  predicate := comparison.Asked
  observer observer := comparison.Told observer (change observer)
  callable target := comparison.related (call target) (call target)
  inert := ∀ typeName, comparison.related (raise (.notCallable typeName) : Matcher)
    (raise (.notCallable typeName))

private theorem forall₂_retell {call : κ → Matcher} {change : Observer → Observer}
    {members : List (Pattern κ)}
    (each : ∀ part ∈ members,
      comparison.related (part.run call) ((part.retell change).run call)) :
    List.Forall₂ comparison.related (members.map (Pattern.run call))
      ((members.map (Pattern.retell change)).map (Pattern.run call)) := by
  rw [List.forall₂_map_left_iff, List.forall₂_map_right_iff, List.forall₂_map_right_iff,
    List.forall₂_same]
  exact each

/-- A pattern is related to itself with other observers when each observer is related to the one in
its place. -/
theorem related_retell {call : κ → Matcher} {change : Observer → Observer} {pattern : Pattern κ}
    (met : pattern.Meets (comparison.parts call change)) :
    comparison.related (pattern.run call) ((pattern.retell change).run call) := by
  induction met with
  | unit asked told => exact related_unit asked told
  | literal told => exact related_literal told _
  | seq _ told ih =>
    rw [Pattern.retell, Pattern.run, Pattern.run, Pattern.retellEach_eq_map,
      Pattern.runEach_eq_map, Pattern.runEach_eq_map]
    exact related_seq (forall₂_retell ih) told
  | choice _ told ih =>
    rw [Pattern.retell, Pattern.run, Pattern.run, Pattern.retellEach_eq_map,
      Pattern.runEach_eq_map, Pattern.runEach_eq_map]
    exact related_choice (forall₂_retell ih) told
  | star _ told ih =>
    rw [Pattern.retell, Pattern.run, Pattern.run, Pattern.label_retell]
    exact related_star ih told _
  | plus _ told ih =>
    rw [Pattern.retell, Pattern.run, Pattern.run, Pattern.label_retell]
    exact related_plus ih told _
  | @times body observer count _ told ih =>
    have each : ∀ part ∈ List.replicate count body,
        comparison.related (part.run call) ((part.retell change).run call) := by
      intro part member
      rw [List.eq_of_mem_replicate member]
      exact ih
    have copies := forall₂_retell each
    simp only [List.map_replicate] at copies
    rw [Pattern.retell, Pattern.run, Pattern.run, times_eq_seq, times_eq_seq]
    exact related_seq copies told
  | optional _ told ih => exact related_optional ih told
  | observed _ told ih => exact related_observed ih told
  | labelled _ ih => exact ih
  | callable called => exact called
  | inert tolerated => exact tolerated _

end Comparison

end SpanLexer
