import SpanLexer.Matcher
import SpanLexer.Proofs.Window

/-!
How a run of a scan ends: with a value and a position, or with a fault.

`Returns` takes a composed scan apart into the runs of its parts, one equivalence for each way to
make a scan, so that later proofs never open the scans themselves. `FaultsWithin` bounds the
faults a scan can stop with; it needs `Returns` only to know where the next part starts.
-/
namespace SpanLexer.Scan

/-- The scan gives the value and leaves the cursor at the position. -/
def Returns (scan : Scan α) (cursor : Cursor) (value : α) (stop : Nat) : Prop :=
  (scan.run cursor).outcome = .ok value ∧ (scan.run cursor).position = stop

/-- Every fault the scan can stop with here is an allowed one. -/
def FaultsWithin (allowed : Fault → Prop) (scan : Scan α) (cursor : Cursor) : Prop :=
  ∀ fault, (scan.run cursor).outcome = .error fault → allowed fault

/-- A scan has one value and one end. -/
theorem returns_unique {scan : Scan α} (first : scan.Returns cursor value stop)
    (second : scan.Returns cursor other finish) : value = other ∧ stop = finish := by
  obtain ⟨firstValue, firstStop⟩ := first
  obtain ⟨secondValue, secondStop⟩ := second
  rw [firstValue] at secondValue
  cases secondValue
  exact ⟨rfl, firstStop.symm.trans secondStop⟩

/-- The whole run of a scan that returns. -/
theorem run_of_returns {scan : Scan α} (ran : scan.Returns cursor value stop) :
    scan.run cursor = ⟨.ok value, stop, (scan.run cursor).trace⟩ := by
  obtain ⟨returned, stopped⟩ := ran
  rw [← returned, ← stopped]

/-- A run either returns or stops with a fault. -/
theorem returns_or_faults (scan : Scan α) (cursor : Cursor) :
    (∃ value stop, scan.Returns cursor value stop) ∨
      ∃ fault, (scan.run cursor).outcome = .error fault := by
  cases ended : (scan.run cursor).outcome with
  | error fault => exact .inr ⟨fault, rfl⟩
  | ok value => exact .inl ⟨value, _, ended, rfl⟩

@[simp] theorem returns_bind {scan : Scan α} {next : α → Scan β} :
    (scan >>= next).Returns cursor value stop ↔
      ∃ first middle, scan.Returns cursor first middle ∧
        (next first).Returns (cursor.moveTo middle) value stop := by
  simp only [Returns, run_bind]
  cases ended : (scan.run cursor).outcome with
  | error fault => simp
  | ok first =>
    constructor
    · intro later
      exact ⟨first, _, ⟨rfl, rfl⟩, later⟩
    · rintro ⟨_, _, ⟨same, rfl⟩, later⟩
      cases same
      exact later

@[simp] theorem returns_pure {result : α} :
    (pure result : Scan α).Returns cursor value stop ↔ value = result ∧ stop = cursor.position := by
  simp only [Returns, run_pure, Except.ok.injEq]
  exact and_congr eq_comm eq_comm

@[simp] theorem returns_ask {question : Cursor → α} :
    (ask question).Returns cursor value stop ↔
      value = question cursor ∧ stop = cursor.position := by
  simp only [Returns, ask, Except.ok.injEq]
  exact and_congr eq_comm eq_comm

@[simp] theorem returns_raise : (raise fault : Scan α).Returns cursor value stop ↔ False := by
  simp [Returns, raise]

@[simp] theorem returns_emit :
    (emit event).Returns cursor value stop ↔ stop = cursor.position := by
  simp only [Returns, emit, true_and]
  exact eq_comm

@[simp] theorem returns_lift {given : Except Fault α} :
    (lift given).Returns cursor value stop ↔ given = .ok value ∧ stop = cursor.position := by
  simp only [Returns, lift]
  exact and_congr Iff.rfl eq_comm

@[simp] theorem returns_unitAt :
    (unitAt index).Returns cursor unit stop ↔
      cursor.unitAt index = .ok unit ∧ stop = cursor.position := by
  simp only [Returns, unitAt]
  exact and_congr Iff.rfl eq_comm

@[simp] theorem returns_position :
    position.Returns cursor value stop ↔ value = cursor.position ∧ stop = cursor.position :=
  returns_ask

@[simp] theorem returns_remaining :
    remaining.Returns cursor value stop ↔ value = cursor.remaining ∧ stop = cursor.position :=
  returns_ask

@[simp] theorem returns_extent :
    extent.Returns cursor value stop ↔
      value = cursor.limit - cursor.origin ∧ stop = cursor.position :=
  returns_ask

@[simp] theorem returns_startsWith :
    (startsWith literal).Returns cursor value stop ↔
      value = cursor.startsWith literal ∧ stop = cursor.position :=
  returns_ask

@[simp] theorem returns_spanFrom :
    (spanFrom start).Returns cursor value stop ↔
      value = cursor.spanFrom start ∧ stop = cursor.position :=
  returns_ask

@[simp] theorem returns_seek :
    (seek target).Returns cursor value stop ↔
      (cursor.origin ≤ target ∧ target ≤ cursor.limit) ∧ stop = target.toNat := by
  simp only [Returns, seek, move, Cursor.seek]
  by_cases allowed : (cursor.origin : Int) ≤ target ∧ target ≤ cursor.limit
  · simp only [allowed, and_self, ↓reduceIte, Cursor.moveTo_position, true_and]
    exact eq_comm
  · simp [allowed]

@[simp] theorem returns_advance :
    (advance amount).Returns cursor value stop ↔
      (0 ≤ amount ∧ amount ≤ cursor.remaining) ∧ stop = cursor.position + amount.toNat := by
  simp only [Returns, advance, move, Cursor.advance]
  by_cases allowed : 0 ≤ amount ∧ amount ≤ cursor.remaining
  · simp only [allowed, and_self, ↓reduceIte, Cursor.moveTo_position, true_and]
    exact eq_comm
  · simp [allowed]

/-- A fault ends a composed scan where it stands. -/
theorem run_bind_of_error {scan : Scan α} {next : α → Scan β}
    (stopped : scan.run cursor = ⟨.error fault, stop, trace⟩) :
    (scan >>= next).run cursor = ⟨.error fault, stop, trace⟩ := by
  rw [run_bind, stopped]

/-- A value is handed on where the first scan left the cursor. -/
theorem run_bind_of_ok {scan : Scan α} {next : α → Scan β}
    (returned : scan.run cursor = ⟨.ok value, stop, trace⟩) :
    (scan >>= next).run cursor =
      ⟨((next value).run (cursor.moveTo stop)).outcome,
        ((next value).run (cursor.moveTo stop)).position,
        trace ++ ((next value).run (cursor.moveTo stop)).trace⟩ := by
  rw [run_bind, returned]

/-- A composed scan stops with the fault of its first scan, or with that of the next one. -/
theorem fault_of_bind {scan : Scan α} {next : α → Scan β}
    (stopped : ((scan >>= next).run cursor).outcome = .error fault) :
    (scan.run cursor).outcome = .error fault ∨
      ∃ value middle, scan.Returns cursor value middle ∧
        ((next value).run (cursor.moveTo middle)).outcome = .error fault := by
  rw [run_bind] at stopped
  cases ended : (scan.run cursor).outcome with
  | error cause =>
    rw [ended] at stopped
    cases stopped
    exact .inl rfl
  | ok value =>
    rw [ended] at stopped
    exact .inr ⟨value, _, ⟨ended, rfl⟩, stopped⟩

/-- What runs before two scans may be left out when they are compared where it returns. -/
theorem run_bind_congr {scan : Scan α} {first second : α → Scan β}
    (same : ∀ value stop, scan.Returns cursor value stop →
      (first value).run (cursor.moveTo stop) = (second value).run (cursor.moveTo stop)) :
    (scan >>= first).run cursor = (scan >>= second).run cursor := by
  simp only [run_bind]
  cases ended : (scan.run cursor).outcome with
  | error fault => rfl
  | ok value => simp only [same value _ ⟨ended, rfl⟩]

theorem faultsWithin_bind {scan : Scan α} {next : α → Scan β}
    (first : scan.FaultsWithin allowed cursor)
    (later : ∀ value stop, scan.Returns cursor value stop →
      (next value).FaultsWithin allowed (cursor.moveTo stop)) :
    (scan >>= next).FaultsWithin allowed cursor := by
  intro fault stopped
  rcases fault_of_bind stopped with stopped | ⟨value, middle, ran, stopped⟩
  · exact first fault stopped
  · exact later value middle ran fault stopped

theorem faultsWithin_pure (value : α) : (pure value : Scan α).FaultsWithin allowed cursor := by
  intro fault stopped
  cases stopped

theorem faultsWithin_raise (own : allowed fault) :
    (raise fault : Scan α).FaultsWithin allowed cursor := by
  intro fault stopped
  cases stopped
  exact own

theorem faultsWithin_lift {given : Except Fault α}
    (own : ∀ fault, given = .error fault → allowed fault) :
    (lift given).FaultsWithin allowed cursor :=
  own

/-- A move within the window is not refused. -/
theorem run_seek (low : cursor.origin ≤ target) (high : target ≤ cursor.limit) :
    (seek (target : Nat)).run cursor = ⟨.ok (), target, []⟩ := by
  simp only [seek, move, Cursor.seek_within low high, Cursor.moveTo_position]

/-- Once the cursor is put back, nothing is left of where it was. -/
theorem run_seek_bind {next : Unit → Scan β} (low : cursor.origin ≤ target)
    (high : target ≤ cursor.limit) :
    (seek (target : Nat) >>= next).run cursor = (next ()).run (cursor.moveTo target) := by
  rw [run_bind_of_ok (run_seek low high), List.nil_append]

/-- As many units as remain can be consumed. -/
theorem run_advance (short : amount ≤ cursor.remaining) :
    (advance (amount : Nat)).run cursor = ⟨.ok (), cursor.position + amount, []⟩ := by
  simp only [advance, move, Cursor.advance_within short, Cursor.moveTo_position]

end SpanLexer.Scan

namespace SpanLexer

/-- A predicate faults only in allowed ways. -/
def Predicate.FaultsWithin (allowed : Fault → Prop) (predicate : Predicate) : Prop :=
  ∀ unit fault, predicate.test unit = .error fault → allowed fault

/-- An observer that stops the run does so with an allowed fault. -/
def Observer.FaultsWithin (allowed : Fault → Prop) (observer : Observer) : Prop :=
  ∀ id message, observer = .interrupt id message → allowed (.raised message)

/-- The observer does not stop the run. -/
def Observer.Quiet : Observer → Prop
  | .interrupt _ _ => False
  | _ => True

/-- A predicate that always answers does not fault in any way. -/
theorem Predicate.faultsWithin_of_answers {predicate : Predicate}
    (answers : ∀ unit, ∃ answer, predicate.test unit = .ok answer) (allowed : Fault → Prop) :
    predicate.FaultsWithin allowed := by
  intro unit fault refused
  obtain ⟨answer, answered⟩ := answers unit
  rw [answered] at refused
  cases refused

theorem Observer.faultsWithin_of_quiet {observer : Observer} (quiet : observer.Quiet)
    (allowed : Fault → Prop) : observer.FaultsWithin allowed := by
  rintro id message rfl
  exact quiet.elim

namespace Scan

@[simp] theorem returns_notify :
    (notify observer span).Returns cursor value stop ↔
      observer.Quiet ∧ stop = cursor.position := by
  cases observer with
  | silent => simp [notify, Observer.Quiet]
  | record id => simp [notify, Observer.Quiet, Returns, record, eq_comm]
  | collect list => simp [notify, Observer.Quiet, Returns, record, eq_comm]
  | interrupt id message => simp [notify, Observer.Quiet]

/-- An observer stops a run with its own fault only. -/
theorem faultsWithin_notify (own : observer.FaultsWithin allowed) :
    (notify observer span).FaultsWithin allowed cursor := by
  cases observer with
  | silent => exact faultsWithin_pure ()
  | record id => intro fault stopped; cases stopped
  | collect list => intro fault stopped; cases stopped
  | interrupt id message => intro fault stopped; cases stopped; exact own id message rfl

end Scan

end SpanLexer
