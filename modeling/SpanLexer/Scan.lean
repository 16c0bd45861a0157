import SpanLexer.Cursor
import SpanLexer.Event
import SpanLexer.Observer

/-!
Scans: computations that use a cursor.

A scan may look at units, move the position, append events and stop with a fault. Its window and
buffer are given and cannot change. A fault ends the scan where it stands: neither the position
nor the trace is taken back.

A scan is a function of the cursor, and this is an assumption about everything that takes part in
it. Predicates, observers and callables keep no state from one call to the next, so that the same
scan has the same run whenever it is started from the same cursor; and while it runs, nothing else
moves the cursor or changes the buffer. Between two runs, a buffer may change.
-/
namespace SpanLexer

/-- What became of a scan: its value or the fault that stopped it, where the cursor ended, and
what happened on the way. -/
structure Run (α : Type) where
  outcome : Except Fault α
  position : Nat
  trace : Trace

/-- A computation on a cursor. -/
@[ext] structure Scan (α : Type) where
  run : Cursor → Run α

namespace Scan

variable {α β γ : Type}

/-- Changes nothing. -/
def done (value : α) : Scan α where
  run cursor := ⟨.ok value, cursor.position, []⟩

/-- Goes on from where the first scan left the cursor, unless it stopped with a fault. -/
def andThen (scan : Scan α) (next : α → Scan β) : Scan β where
  run cursor :=
    let first := scan.run cursor
    match first.outcome with
    | .error fault => ⟨.error fault, first.position, first.trace⟩
    | .ok value =>
      let second := (next value).run (cursor.moveTo first.position)
      ⟨second.outcome, second.position, first.trace ++ second.trace⟩

instance : Monad Scan where
  pure := done
  bind := andThen

/-- A scan that is made only when it is run, so that a scan can refer to one that refers back. -/
def delay (make : Unit → Scan α) : Scan α where
  run cursor := (make ()).run cursor

/-- Stops with a fault. -/
def raise (fault : Fault) : Scan α where
  run cursor := ⟨.error fault, cursor.position, []⟩

/-- Appends an event. -/
def emit (event : Event) : Scan Unit where
  run cursor := ⟨.ok (), cursor.position, [event]⟩

/-- A value, or the fault there is instead. -/
def lift (value : Except Fault α) : Scan α where
  run cursor := ⟨value, cursor.position, []⟩

/-- Looks at the cursor. -/
def ask (question : Cursor → α) : Scan α where
  run cursor := ⟨.ok (question cursor), cursor.position, []⟩

/-- Where the cursor is. -/
def position : Scan Nat :=
  ask Cursor.position

/-- How many units remain. -/
def remaining : Scan Nat :=
  ask Cursor.remaining

/-- The number of units in the window. -/
def extent : Scan Nat :=
  ask fun cursor => cursor.limit - cursor.origin

/-- Whether the remaining units start with a literal. -/
def startsWith (literal : List Char) : Scan Bool :=
  ask (·.startsWith literal)

/-- The span of everything consumed since a position. -/
def spanFrom (start : Int) : Scan Span :=
  ask (·.spanFrom start)

/-- A remaining unit. -/
def unitAt (index : Int) : Scan Char where
  run cursor := ⟨cursor.unitAt index, cursor.position, []⟩

/-- Moves the cursor; a refused move leaves it where it was. -/
def move (step : Cursor → Except Fault Cursor) : Scan Unit where
  run cursor :=
    match step cursor with
    | .ok moved => ⟨.ok (), moved.position, []⟩
    | .error fault => ⟨.error fault, cursor.position, []⟩

/-- Moves to a position of the window. -/
def seek (target : Int) : Scan Unit :=
  move (·.seek target)

/-- Consumes units. -/
def advance (amount : Int) : Scan Unit :=
  move (·.advance amount)

/-- Puts down where an observer was told a span. -/
def record (sink : Sink) (span : Span) : Scan Unit where
  run cursor :=
    ⟨.ok (), cursor.position, [.observed sink span (cursor.buffer.textOf span) cursor.position]⟩

/-- Tells an observer a span. -/
def notify (observer : Observer) (span : Span) : Scan Unit :=
  match observer with
  | .silent => pure ()
  | .record id => record (.log id) span
  | .collect list => record (.list list) span
  | .interrupt id message => do
    record (.log id) span
    raise (.raised message)

@[simp] theorem delay_eq (make : Unit → Scan α) : delay make = make () := rfl

@[simp] theorem run_pure (value : α) (cursor : Cursor) :
    (pure value : Scan α).run cursor = ⟨.ok value, cursor.position, []⟩ := rfl

theorem run_bind (scan : Scan α) (next : α → Scan β) (cursor : Cursor) :
    (scan >>= next).run cursor =
      match (scan.run cursor).outcome with
      | .error fault => ⟨.error fault, (scan.run cursor).position, (scan.run cursor).trace⟩
      | .ok value =>
        ⟨((next value).run (cursor.moveTo (scan.run cursor).position)).outcome,
          ((next value).run (cursor.moveTo (scan.run cursor).position)).position,
          (scan.run cursor).trace ++
            ((next value).run (cursor.moveTo (scan.run cursor).position)).trace⟩ := rfl

instance : LawfulMonad Scan := LawfulMonad.mk' Scan
  (by
    intro α scan
    ext cursor
    change (scan >>= fun value => pure value).run cursor = scan.run cursor
    rw [run_bind]
    rcases scan.run cursor with ⟨fault | value, position, trace⟩ <;> simp)
  (by
    intro α β value next
    ext cursor
    rw [run_bind]
    simp)
  (by
    intro α β γ scan next last
    ext cursor
    simp only [run_bind]
    rcases scan.run cursor with ⟨fault | value, position, trace⟩
    · rfl
    · simp only
      rcases (next value).run (cursor.moveTo position) with ⟨fault | value, position, trace⟩ <;>
        simp)

end Scan

end SpanLexer
