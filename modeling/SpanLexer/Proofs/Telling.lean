import SpanLexer.Proofs.Combinators
import SpanLexer.Proofs.Interference

/-!
Runs that end by telling an observer a span.

Telling leaves the cursor where it is. It puts down one event, unless nobody listens, and then the
observer either lets the run go on or stops it. So the whole run of a matcher that tells its
observer last can be read off the run before it.
-/
namespace SpanLexer

namespace Observer

/-- What is put down when an observer is told a span at the cursor: one event, unless nobody
listens. -/
def notes (observer : Observer) (cursor : Cursor) (span : Span) : Trace :=
  (observer.sink?.map fun sink =>
    .observed sink span (cursor.buffer.textOf span) cursor.position).toList

/-- Whether the run goes on once the observer has been told. -/
def reaction : Observer → Except Fault Unit
  | .interrupt _ message => .error (.raised message)
  | _ => .ok ()

theorem reaction_of_quiet {observer : Observer} (quiet : observer.Quiet) :
    observer.reaction = .ok () := by
  cases observer with
  | interrupt id message => exact quiet.elim
  | _ => rfl

end Observer

namespace Scan

theorem run_notify (observer : Observer) (span : Span) (cursor : Cursor) :
    (notify observer span).run cursor =
      ⟨observer.reaction, cursor.position, observer.notes cursor span⟩ := by
  cases observer <;> rfl

end Scan

namespace Matcher
open Scan

private theorem run_notify_return (observer : Observer) (span : Span) (cursor : Cursor) :
    (notify observer span >>= fun _ => pure (some span) : Matcher).run cursor =
      ⟨observer.reaction.map fun _ => some span, cursor.position, observer.notes cursor span⟩ := by
  rw [run_bind, run_notify]
  cases observer.reaction with
  | error fault => rfl
  | ok _ => simp [Except.map]

/-- The whole run of what is left to do when everything has matched. -/
theorem run_conclude (start : Nat) (observer : Observer) (cursor : Cursor) :
    (conclude start observer).run cursor =
      ⟨observer.reaction.map fun _ => some ⟨start, cursor.position⟩, cursor.position,
        observer.notes cursor ⟨start, cursor.position⟩⟩ :=
  run_notify_return observer ⟨start, cursor.position⟩ cursor

/-- An observer is told the span of a match after all that happened in it. -/
theorem run_observed_match (ran : matcher.run cursor = ⟨.ok (some span), stop, trace⟩)
    (observer : Observer) :
    (observed matcher observer).run cursor =
      ⟨observer.reaction.map fun _ => some span, stop,
        trace ++ observer.notes (cursor.moveTo stop) span⟩ := by
  change (matcher >>= _).run cursor = _
  rw [run_bind_of_ok ran]
  simp only [run_notify_return, Cursor.moveTo_position]

/-- Where nothing has matched, there is nothing to tell. -/
theorem run_observed_miss (ran : matcher.run cursor = ⟨.ok none, stop, trace⟩)
    (observer : Observer) :
    (observed matcher observer).run cursor = ⟨.ok none, stop, trace⟩ := by
  change (matcher >>= _).run cursor = _
  rw [run_bind_of_ok ran]
  simp

theorem run_observed_fault (ran : matcher.run cursor = ⟨.error fault, stop, trace⟩)
    (observer : Observer) :
    (observed matcher observer).run cursor = ⟨.error fault, stop, trace⟩ :=
  run_bind_of_error ran

/-- Where a matcher does not match, its observer changes nothing of the run. -/
theorem run_observed_unmatched
    (unmatched : ∀ span, (matcher.run cursor).outcome ≠ .ok (some span)) (observer : Observer) :
    (observed matcher observer).run cursor = matcher.run cursor := by
  rcases ran : matcher.run cursor with ⟨fault | _ | span, stop, trace⟩
  · exact run_observed_fault ran observer
  · exact run_observed_miss ran observer
  · exact (unmatched span (by rw [ran])).elim

/-- When all parts of a sequence have matched, the observer is told where the last one ends. -/
theorem run_seq_match (row : (allMatch parts).run cursor = ⟨.ok true, stop, trace⟩)
    (observer : Observer) :
    (seq parts observer).run cursor =
      ⟨observer.reaction.map fun _ => some ⟨cursor.position, stop⟩, stop,
        trace ++ observer.notes (cursor.moveTo stop) ⟨cursor.position, stop⟩⟩ := by
  change (allMatch parts >>= _).run cursor = _
  rw [run_bind_of_ok row]
  simp only [↓reduceIte, run_conclude, Cursor.moveTo_position]

/-- When a part misses, the cursor is put back from wherever the row has broken off. -/
theorem run_seq_miss (valid : cursor.Valid)
    (row : (allMatch parts).run cursor = ⟨.ok false, stop, trace⟩) (observer : Observer) :
    (seq parts observer).run cursor = ⟨.ok none, cursor.position, trace⟩ := by
  have back : (seek cursor.position >>= fun _ => pure none : Matcher).run (cursor.moveTo stop) =
      (pure none : Matcher).run cursor := run_seek_bind valid.1 valid.2
  change (allMatch parts >>= _).run cursor = _
  rw [run_bind_of_ok row]
  simp only [Bool.false_eq_true, ↓reduceIte, back, run_pure, List.append_nil]

theorem run_seq_fault (row : (allMatch parts).run cursor = ⟨.error fault, stop, trace⟩)
    (observer : Observer) :
    (seq parts observer).run cursor = ⟨.error fault, stop, trace⟩ := by
  change (allMatch parts >>= _).run cursor = _
  exact run_bind_of_error row

end Matcher

end SpanLexer
