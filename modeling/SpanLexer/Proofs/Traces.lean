import SpanLexer.Proofs.Bounds

/-!
What can happen in a run.

`EventsWithin` bounds the events a scan can leave. A pattern whose callables keep the contract asks
its predicates only about the unit it stands at, and tells its observers only spans that start
where it has been and end where it stands; it warns only of a repetition whose body matches the
empty span. All this also holds in branches that are given up later and in runs that a fault ends,
because an event is never taken back.
-/
namespace SpanLexer.Scan

/-- Every event the scan leaves here is an allowed one. -/
def EventsWithin (allowed : Event → Prop) (scan : Scan α) (cursor : Cursor) : Prop :=
  ∀ event ∈ (scan.run cursor).trace, allowed event

variable {allowed : Event → Prop}

theorem eventsWithin_bind {scan : Scan α} {next : α → Scan β}
    (first : scan.EventsWithin allowed cursor)
    (later : ∀ value stop, scan.Returns cursor value stop →
      (next value).EventsWithin allowed (cursor.moveTo stop)) :
    (scan >>= next).EventsWithin allowed cursor := by
  intro event member
  rw [run_bind] at member
  cases ended : (scan.run cursor).outcome with
  | error fault =>
    rw [ended] at member
    exact first event member
  | ok value =>
    rw [ended] at member
    rcases List.mem_append.mp member with before | after
    · exact first event before
    · exact later value _ ⟨ended, rfl⟩ event after

end SpanLexer.Scan

namespace SpanLexer.Traces
open Scan Matcher Contract Bounds

variable {base : Cursor} {allowed : Event → Prop}

/-- All events that are a pattern's own are allowed, the warnings of repetitions among them. -/
structure OwnEvents (allowed : Event → Prop) (base : Cursor) : Prop
    extends AsksAndTells allowed base where
  emptyRound (label : String) : allowed (.emptyRound label)

/-- From every position ahead of the cursor, the matcher leaves only allowed events. -/
def LeavesWithin (allowed : Event → Prop) (base : Cursor) (matcher : Matcher) : Prop :=
  ∀ start, base.Ahead start → matcher.EventsWithin allowed (base.moveTo start)

/-- Callables keep the contract and leave only allowed events. -/
def partsLeaving (allowed : Event → Prop) (base : Cursor) (call : κ → Matcher) : Demand κ :=
  .ofCallables fun target => Keeps base (call target) ∧ LeavesWithin allowed base (call target)

/-- A pattern leaves only allowed events, when what it asks and tells and the events of its
callables are allowed, and so is the warning about any repetition in it that can warn. -/
theorem run_leavesWithin_of_warns {call : κ → Matcher} {pattern : Pattern κ} (valid : base.Valid)
    (own : AsksAndTells allowed base) (met : pattern.Meets (partsLeaving allowed base call))
    (warns : ∀ body ∈ pattern.repeatedBodies, WarnsWithin allowed base body.label (body.run call)) :
    LeavesWithin allowed base (pattern.run call) := by
  have anyFault : OwnFaults (fun _ => True) base := ⟨valid, .inl trivial, .inl trivial⟩
  have parts : pattern.Meets ((within (fun _ => True) allowed base).parts base call) := by
    refine met.mono ?_ ?_ ?_ ?_
    · exact fun _ _ _ _ _ _ _ => trivial
    · exact fun _ _ _ _ _ _ _ => trivial
    · rintro target ⟨keep, leaves⟩
      exact ⟨keep, (governs_within_iff keep).mpr fun start ahead =>
        ⟨fun _ _ => trivial, leaves start ahead⟩⟩
    · exact fun _ _ _ _ => trivial
  have governed := governs_run (within_own anyFault own) parts warns
  exact fun start ahead => (governed start ahead).leaves

/-- A pattern leaves only allowed events, when its own and those of its callables are allowed. -/
theorem run_leavesWithin {call : κ → Matcher} {pattern : Pattern κ} (valid : base.Valid)
    (own : OwnEvents allowed base) (met : pattern.Meets (partsLeaving allowed base call)) :
    LeavesWithin allowed base (pattern.run call) := by
  apply run_leavesWithin_of_warns valid own.toAsksAndTells met
  intro body _
  exact warnsWithin_of_allowed (own.emptyRound body.label)

end SpanLexer.Traces
