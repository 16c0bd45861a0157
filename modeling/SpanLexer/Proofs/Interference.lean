import SpanLexer.Proofs.Retelling
import SpanLexer.Pattern.Unit

/-!
Observers listen; they do not take part.

Two patterns that are one pattern with different observers on its nodes match the same, ask their
predicates the same and leave the same warnings, as long as no observer stops a run. An observer
that sits on the same nodes of both is told the same, in the same order, whoever else is listening.

Which nodes an observer sits on is read off `heardBy`: two patterns have it on the same nodes
exactly when they become equal once everybody else is silenced.
-/
namespace SpanLexer

/-- Where an observer puts what it is told. -/
def Observer.sink? : Observer → Option Sink
  | .silent => none
  | .record id => some (.log id)
  | .collect list => some (.list list)
  | .interrupt id _ => some (.log id)

/-- The observer, or nobody when it does not write to one of the sinks. -/
def Observer.among (sinks : Sink → Bool) (observer : Observer) : Observer :=
  if observer.sink?.any sinks then observer else .silent

/-- The pattern with nobody listening but the observers that write to one of the sinks. -/
def Pattern.heardBy (sinks : Sink → Bool) (pattern : Pattern κ) : Pattern κ :=
  pattern.retell (Observer.among sinks)

/-- The event was put down in one of the sinks, or it is not of an observer: a predicate was asked,
a repetition warned, a callable left something. -/
def Event.heardBy (sinks : Sink → Bool) (event : Event) : Bool :=
  event.sink?.all sinks

namespace Interference
open Scan

/-- The sinks nobody writes to: none of them. -/
def nobody : Sink → Bool :=
  fun _ => false

/-- Two runs with the same outcome at the same position, in which the same events of a kind
happened. -/
structure SameRun (kind : Event → Bool) (one two : Run α) : Prop where
  outcome : one.outcome = two.outcome
  position : one.position = two.position
  trace : one.trace.filter kind = two.trace.filter kind

variable {kind : Event → Bool}

private theorem sameRun_bind {one two : Scan α} {next next' : α → Scan β} {cursor : Cursor}
    (first : SameRun kind (one.run cursor) (two.run cursor))
    (later : ∀ value cursor, SameRun kind ((next value).run cursor) ((next' value).run cursor)) :
    SameRun kind ((one >>= next).run cursor) ((two >>= next').run cursor) := by
  obtain ⟨outcome, position, trace⟩ := first
  simp only [run_bind, ← outcome, ← position]
  cases (one.run cursor).outcome with
  | error fault => exact ⟨rfl, rfl, trace⟩
  | ok value =>
    obtain ⟨outcome', position', trace'⟩ :=
      later value (cursor.moveTo (one.run cursor).position)
    refine ⟨outcome', position', ?_⟩
    simp only [List.filter_append, trace, trace']

/-- Scans that have the same runs, but for events that are not of the kind. -/
def sameBut (kind : Event → Bool) : Comparison where
  related one two := ∀ cursor, SameRun kind (one.run cursor) (two.run cursor)
  plain _ _ := ⟨rfl, rfl, rfl⟩
  bind first later cursor := sameRun_bind (first cursor) later

/-- An observer that does not stop the run can be silenced, as far as its sink does not matter. -/
theorem told_among {observer : Observer} (quiet : observer.Quiet) (sinks : Sink → Bool) :
    (sameBut (Event.heardBy sinks)).Told observer (observer.among sinks) := by
  intro span cursor
  unfold Observer.among
  by_cases wanted : observer.sink?.any sinks = true
  · rw [if_pos wanted]
    exact ⟨rfl, rfl, rfl⟩
  · rw [if_neg wanted]
    have unwanted : ∀ sink, observer.sink? = some sink → sinks sink = false := by
      intro sink own
      simpa [own] using wanted
    cases observer with
    | silent => exact ⟨rfl, rfl, rfl⟩
    | record id =>
      refine ⟨rfl, rfl, ?_⟩
      simp [notify, record, Event.heardBy, Event.sink?, unwanted (.log id) rfl]
    | collect list =>
      refine ⟨rfl, rfl, ?_⟩
      simp [notify, record, Event.heardBy, Event.sink?, unwanted (.list list) rfl]
    | interrupt id message => exact quiet.elim

/-- Silencing observers changes nothing but that they are not told. -/
theorem run_heardBy (call : κ → Matcher) {pattern : Pattern κ}
    (quiet : pattern.Meets (.ofObservers Observer.Quiet)) (sinks : Sink → Bool)
    (cursor : Cursor) :
    SameRun (Event.heardBy sinks) ((pattern.run call).run cursor)
      (((pattern.heardBy sinks).run call).run cursor) := by
  have met : pattern.Meets
      ((sameBut (Event.heardBy sinks)).parts call (Observer.among sinks)) := by
    refine quiet.mono ?_ ?_ ?_ ?_
    · exact fun predicate _ unit cursor => ⟨rfl, rfl, rfl⟩
    · exact fun observer quiet => told_among quiet sinks
    · exact fun target _ cursor => ⟨rfl, rfl, rfl⟩
    · exact fun _ typeName cursor => ⟨rfl, rfl, rfl⟩
  exact Comparison.related_retell met cursor

/-- Patterns that are alike once everybody but the observers of some sinks is silenced have the same
run, and those observers hear the same. -/
theorem sameRun_of_heardBy (call : κ → Matcher) {one two : Pattern κ}
    (quiet : one.Meets (.ofObservers Observer.Quiet))
    (quiet' : two.Meets (.ofObservers Observer.Quiet))
    (same : one.heardBy sinks = two.heardBy sinks) (cursor : Cursor) :
    SameRun (Event.heardBy sinks) ((one.run call).run cursor) ((two.run call).run cursor) := by
  have first := run_heardBy call quiet sinks cursor
  have second := run_heardBy call quiet' sinks cursor
  rw [← same] at second
  exact ⟨first.outcome.trans second.outcome.symm, first.position.trans second.position.symm,
    first.trace.trans second.trace.symm⟩

/-- Let two patterns be the same but for their observers, none of which stops a run. From every
cursor they match the same span or nothing, or stop with the same fault, and leave the cursor at
the same position; the predicates are asked the same and the same warnings are left, in the same
order. Observers that sit on the same nodes of both patterns are told the same in both runs, in the
same order. -/
theorem observers_do_not_interfere (call : κ → Matcher) (one two : Pattern κ) (cursor : Cursor)
    (quiet : one.Meets (.ofObservers Observer.Quiet))
    (quiet' : two.Meets (.ofObservers Observer.Quiet))
    (alike : one.heardBy nobody = two.heardBy nobody) :
    ((one.run call).run cursor).outcome = ((two.run call).run cursor).outcome ∧
    ((one.run call).run cursor).position = ((two.run call).run cursor).position ∧
    ((one.run call).run cursor).trace.filter (Event.heardBy nobody) =
      ((two.run call).run cursor).trace.filter (Event.heardBy nobody) ∧
    ∀ sinks, one.heardBy sinks = two.heardBy sinks →
      ((one.run call).run cursor).trace.filter (Event.heardBy sinks) =
        ((two.run call).run cursor).trace.filter (Event.heardBy sinks) := by
  obtain ⟨outcome, position, trace⟩ := sameRun_of_heardBy call quiet quiet' alike cursor
  refine ⟨outcome, position, trace, ?_⟩
  intro sinks kept
  exact (sameRun_of_heardBy call quiet quiet' kept cursor).trace

/-- A pair of letters and a mark after it, or else optional units up to a semicolon, for any
observers of the pair, the marks and the units. -/
def pairOrUnits (pair mark unit : Observer) : Pattern Empty :=
  .choice [.seq [.literal ['a', 'b'] pair, .character 'c' mark] .silent,
    .star (.optional (.noneOf [';'] unit) mark) mark] .silent

/-- Everybody listens. -/
def loggedPairs : Pattern Empty :=
  pairOrUnits (.record "pair") (.record "mark") (.collect "units")

/-- Nobody hears of pairs and units. -/
def markedPairs : Pattern Empty :=
  pairOrUnits .silent (.record "mark") .silent

/-- A pair without a mark after it, so that it is given up again. -/
def pairText : Cursor :=
  ⟨.text ['a', 'b', 'd', ';'], 0, 0, 4⟩

private theorem pairOrUnits_quiet (pair mark unit : Observer) (pairs : pair.Quiet)
    (marks : mark.Quiet) (units : unit.Quiet) :
    (pairOrUnits pair mark unit).Meets (.ofObservers Observer.Quiet) := by
  refine .choice ?_ trivial
  intro part member
  simp only [List.mem_cons, List.not_mem_nil, or_false] at member
  rcases member with rfl | rfl
  · refine .seq ?_ trivial
    intro part member
    simp only [List.mem_cons, List.not_mem_nil, or_false] at member
    rcases member with rfl | rfl
    · exact .literal pairs
    · exact .unit trivial marks
  · exact .star (.optional (.unit trivial units) marks) marks

/-- Whoever hears of the pair and the units, the observer of the marks is told the same, between the
same predicate calls and before the same warning. -/
theorem markedPairs_heard_alike :
    loggedPairs.heardBy nobody = markedPairs.heardBy nobody ∧
    ((loggedPairs.run Empty.elim).run pairText).trace.length = 15 ∧
    ((markedPairs.run Empty.elim).run pairText).trace.length = 11 ∧
    ((loggedPairs.run Empty.elim).run pairText).trace.filter
        (Event.heardBy fun sink => sink == .log "mark") =
      ((markedPairs.run Empty.elim).run pairText).trace.filter
        (Event.heardBy fun sink => sink == .log "mark") := by
  have alike : loggedPairs.heardBy nobody = markedPairs.heardBy nobody := rfl
  have kept : loggedPairs.heardBy (fun sink => sink == .log "mark") =
      markedPairs.heardBy (fun sink => sink == .log "mark") := rfl
  obtain ⟨_, _, _, heard⟩ := observers_do_not_interfere Empty.elim loggedPairs markedPairs pairText
    (pairOrUnits_quiet _ _ _ trivial trivial trivial)
    (pairOrUnits_quiet _ _ _ trivial trivial trivial) alike
  exact ⟨alike, rfl, rfl, heard _ kept⟩

end Interference

end SpanLexer
