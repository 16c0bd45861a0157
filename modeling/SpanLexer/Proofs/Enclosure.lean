import SpanLexer.Proofs.Confinement
import SpanLexer.Proofs.Pairing
import SpanLexer.Proofs.Traces
import SpanLexer.Pattern.Unit

/-!
A run does not leave the units between where it starts and the end of its window.

What a run returns says little about what it does on the way: it gives branches up, goes back and
tries others, and a fault may end it anywhere. Still every part of it, at any depth, is started and
left between the two ends, and so is everything that predicates are asked and observers are told.

That no move in between leads out either is said with a second window, which starts where the run
does. There a move to a position before the start is refused and ends the run; yet the run is the
same, so it never makes such a move.
-/
namespace SpanLexer

/-- The same position in a window that starts there. -/
def Cursor.narrowed (cursor : Cursor) : Cursor :=
  { cursor with origin := cursor.position }

namespace Enclosure
open Scan Contract Bounds Traces Subruns Confinement

/-- What happened lies between the cursor and the end of its window. A predicate was asked about the
unit at a position that is not the end; an observer was told a span up to the position, together
with the units the buffer holds there. -/
def Enclosed (base : Cursor) : Event → Prop
  | .tested here unit _ =>
    base.position ≤ here ∧ here < base.limit ∧ base.buffer.units[here]? = some unit
  | .observed _ span text here =>
    ∃ start : Nat, span = ⟨start, here⟩ ∧ base.position ≤ start ∧ start ≤ here ∧
      here ≤ base.limit ∧ text = (base.buffer.units.drop start).take (here - start)
  | _ => True

/-- A matcher that keeps the contract and does not leave the units from the cursor to the end of its
window, whether it matches, misses or stops with a fault. -/
structure StaysInside (base : Cursor) (matcher : Matcher) : Prop where
  keeps : Keeps base matcher
  stops : ∀ start, base.Ahead start → base.Ahead (matcher.run (base.moveTo start)).position
  leaves : LeavesWithin (Enclosed base) base matcher
  narrowed : ∀ start, base.Ahead start →
    matcher.run (base.narrowed.moveTo start) = matcher.run (base.moveTo start)

variable {base : Cursor}

/-- All that a pattern asks and tells by itself is enclosed. -/
theorem enclosed_ownEvents (inside : base.Inside) : OwnEvents (Enclosed base) base where
  tested _ ahead found := ⟨ahead.1, Cursor.unitAt_found found⟩
  observed {start stop} _ ahead forward := by
    have low : start ≤ stop := forward.1
    have high : stop ≤ base.limit := forward.2
    have stopBound : stop ≤ base.buffer.size := Nat.le_trans high inside.2
    have read := Cursor.textOf_eq_take_drop base.buffer (Nat.le_trans low stopBound) stopBound
    exact ⟨start, rfl, ahead.1, low, high, read⟩
  emptyRound _ := trivial

/-- From the same position, the narrowed window looks like the window itself. -/
def narrowing (valid : base.Valid) : Pairing where
  first := base.narrowed
  second := base
  positions here there := here = there ∧ base.Ahead here
  traces one two := one = two
  valid := ⟨⟨Nat.le_refl _, valid.2⟩, valid⟩
  ahead := by
    rintro here _ ⟨rfl, ahead⟩
    exact ⟨ahead, ahead⟩
  distance := by
    rintro start _ stop _ ⟨rfl, _⟩ ⟨rfl, _⟩
    rfl
  remaining := by
    rintro here _ ⟨rfl, _⟩
    rfl
  startsWith := by
    rintro here _ literal ⟨rfl, _⟩
    rfl
  unitAt := by
    rintro here _ ⟨rfl, _⟩
    rfl
  advance := by
    rintro here _ amount ⟨rfl, ahead⟩ room
    exact ⟨rfl, Nat.le_trans ahead.1 (Nat.le_add_right _ _), room⟩
  nothing := rfl
  append before later := by rw [before, later]
  tested := by
    rintro here _ unit shown ⟨rfl, _⟩
    rfl
  emptyRound _ := rfl

/-- A run that ends ahead corresponds to itself, as long as its value does. -/
private theorem runs_self {valid : base.Valid} {values : α → α → Prop} {done : Run α}
    (same : ∀ value, done.outcome = .ok value → values value value)
    (ahead : base.Ahead done.position) : (narrowing valid).Runs values done done := by
  refine ⟨?_, ⟨rfl, ahead⟩, rfl⟩
  cases ended : done.outcome with
  | error fault => exact .stopped fault
  | ok value => exact .returned (same value ended)

/-- Observers are told the same in both windows. -/
theorem told_narrowed (valid : base.Valid) (observer : Observer) :
    (narrowing valid).Told observer observer := by
  rintro start _ stop _ here _ ⟨rfl, _⟩ ⟨rfl, _⟩ ⟨rfl, ahead⟩
  have same : (notify observer ⟨start, stop⟩).run (base.narrowed.moveTo here) =
      (notify observer ⟨start, stop⟩).run (base.moveTo here) := by cases observer <;> rfl
  have still : ((notify observer ⟨start, stop⟩).run (base.moveTo here)).position = here := by
    cases observer <;> rfl
  change (narrowing valid).Runs _
    ((notify observer ⟨start, stop⟩).run (base.narrowed.moveTo here)) _
  rw [same]
  apply runs_self
  · intro value _
    rfl
  · rw [still]
    exact ahead

theorem aligned_of_staysInside (valid : base.Valid) (own : StaysInside base matcher) :
    (narrowing valid).Aligned matcher matcher := by
  rintro here _ ⟨rfl, ahead⟩
  change (narrowing valid).Runs _ (matcher.run (base.narrowed.moveTo here)) _
  rw [own.narrowed here ahead]
  apply runs_self
  · intro matched ended
    have fulfilled := own.keeps here matched _ ahead ⟨ended, rfl⟩
    cases matched with
    | none => exact .missed
    | some span =>
      obtain ⟨rfl, forward⟩ := fulfilled
      exact .matched ⟨rfl, ahead⟩ ⟨rfl, ahead_trans ahead forward⟩
  · exact own.stops here ahead

theorem keeps_narrowed (own : StaysInside base matcher) : Keeps base.narrowed matcher := by
  intro start result stop ahead ran
  have same : matcher.Returns (base.moveTo start) result stop := by
    rw [Returns, ← own.narrowed start ahead]
    exact ran
  have fulfilled := own.keeps start result stop ahead same
  cases result with
  | none => exact fulfilled
  | some span => exact fulfilled

/-- Runs that correspond in the two windows are the same run. -/
private theorem eq_of_runs {valid : base.Valid} {one two : Run (Option Span)}
    (runs : (narrowing valid).Runs (narrowing valid).Spans one two) : one = two := by
  rcases one with ⟨outcome, position, trace⟩
  rcases two with ⟨outcome', position', trace'⟩
  obtain ⟨outcomes, ⟨rfl, _⟩, rfl⟩ := runs
  cases outcomes with
  | stopped fault => rfl
  | returned spans =>
    cases spans with
    | missed => rfl
    | matched starts stops => rw [starts.1, stops.1]

/-- A pattern over callables that stay inside stays inside. -/
theorem staysInside_run {call : κ → Matcher} {pattern : Pattern κ} (inside : base.Inside)
    (met : pattern.Meets (.ofCallables fun target => StaysInside base (call target))) :
    StaysInside base (pattern.run call) := by
  -- The runs in the two windows go side by side, each position a position ahead; so a move that one
  -- of the windows would refuse is never made.
  have aligned : (narrowing inside.1).Aligned (pattern.run call) (pattern.run call) := by
    apply Pairing.aligned_run
    apply met.mono
    · exact fun _ _ => trivial
    · exact fun observer _ => told_narrowed inside.1 observer
    · exact fun target own => ⟨keeps_narrowed own, own.keeps, aligned_of_staysInside inside.1 own⟩
    · exact fun _ => trivial
  have leaving : pattern.Meets (partsLeaving (Enclosed base) base call) :=
    met.callables fun target own => ⟨own.keeps, own.leaves⟩
  refine ⟨keeps_run met fun target own => own.keeps, ?_, ?_, ?_⟩
  · intro start ahead
    have runs := aligned start start ⟨rfl, ahead⟩
    exact ((narrowing inside.1).ahead runs.positions).2
  · exact run_leavesWithin inside.1 (enclosed_ownEvents inside) leaving
  · intro start ahead
    exact eq_of_runs (aligned start start ⟨rfl, ahead⟩)

/-- No operation of a cursor, granted or refused, leads out of the narrowed window. -/
theorem operation_ahead (operation : Operation) (ahead : base.Ahead here) :
    base.Ahead (operation.scan.run (base.narrowed.moveTo here)).position :=
  operation_confined operation (base.narrowed.moveTo here) ahead

/-- Let a pattern over callables that stay inside run on a window that lies in its buffer. Every
part of it, at any depth and also in branches that are given up, is started between the cursor and
the end of the window, and is left there, whether it matches, misses or stops with a fault. The run
is the same in the window that starts where the cursor is, which no operation leads out of. Whatever
a predicate is asked is the unit at the position, and whatever an observer is told is a span that
ends at the position and the units of the buffer it stands for, none of them outside. -/
theorem run_stays_between (call : κ → Matcher) (pattern : Pattern κ) (cursor : Cursor)
    (inside : cursor.Inside)
    (met : pattern.Meets (.ofCallables fun target => StaysInside cursor (call target))) :
    (∀ part here, Starts call cursor pattern cursor.position part here →
      cursor.Ahead here ∧ cursor.Ahead ((part.run call).run (cursor.moveTo here)).position) ∧
    (pattern.run call).run cursor.narrowed = (pattern.run call).run cursor ∧
    (∀ (operation : Operation) (here : Nat), cursor.Ahead here →
      cursor.Ahead (operation.scan.run (cursor.narrowed.moveTo here)).position) ∧
    ∀ event ∈ ((pattern.run call).run cursor).trace, Enclosed cursor event := by
  have start := Cursor.ahead_self inside.1
  have whole := staysInside_run inside met
  refine ⟨?_, whole.narrowed _ start, fun operation _ => operation_ahead operation,
    whole.leaves _ start⟩
  intro part here starts
  obtain ⟨ahead, own⟩ := starts_ahead met (fun target own => own.keeps) start starts
  have stays := staysInside_run inside own
  exact ⟨ahead, stays.stops here ahead⟩

/-- A word that a callable stands for and a mark after it, or else units up to a semicolon, each of
them told to an observer that stops the run at the second one. -/
def wordOrUnits : Pattern Unit :=
  .choice [.seq [.observed (.callable "word" ()) (.record "word"), .character '!' .silent] .silent,
    .seq [.noneOf [';'] (.collect "first"), .noneOf [';'] (.interrupt "second" "stop")] .silent]
    .silent

/-- The matcher the callable stands for. -/
def letterPair : Unit → Matcher :=
  fun _ => Matcher.literal ['a', 'b'] .silent

/-- Octets of which the window leaves out one on each side. -/
def pairOctets : Cursor :=
  ⟨.octets .array [120, 97, 98, 99, 33], 0, 1, 4⟩

/-- The word is told before its branch is given up, the run goes back, and then it stops with a
fault after the second unit. -/
theorem wordOrUnits_stays :
    pairOctets.Inside ∧
    wordOrUnits.Meets (.ofCallables fun target => StaysInside pairOctets (letterPair target)) ∧
    ((wordOrUnits.run letterPair).run pairOctets).outcome = .error (.raised "stop") ∧
    ((wordOrUnits.run letterPair).run pairOctets).position = 3 ∧
    (wordOrUnits.run letterPair).run pairOctets.narrowed =
      (wordOrUnits.run letterPair).run pairOctets ∧
    .observed (.log "word") ⟨1, 3⟩ ['a', 'b'] 3 ∈
      ((wordOrUnits.run letterPair).run pairOctets).trace ∧
    Enclosed pairOctets (.observed (.log "word") ⟨1, 3⟩ ['a', 'b'] 3) := by
  have inside : pairOctets.Inside := by decide
  have word : StaysInside pairOctets
      ((Pattern.literal ['a', 'b'] .silent : Pattern Empty).run Empty.elim) :=
    staysInside_run inside (.literal trivial)
  have met : wordOrUnits.Meets
      (.ofCallables fun target => StaysInside pairOctets (letterPair target)) := by
    apply Pattern.Meets.choice
    · intro part member
      simp only [List.mem_cons, List.not_mem_nil, or_false] at member
      rcases member with rfl | rfl
      · exact .pair (.observed (.callable word) trivial) (.unit trivial trivial) trivial
      · exact .pair (.unit trivial trivial) (.unit trivial trivial) trivial
    · trivial
  obtain ⟨_, narrowed, _, enclosed⟩ := run_stays_between _ _ _ inside met
  have told : .observed (.log "word") ⟨1, 3⟩ ['a', 'b'] 3 ∈
      ((wordOrUnits.run letterPair).run pairOctets).trace := by decide
  exact ⟨inside, met, rfl, rfl, narrowed, told, enclosed _ told⟩

end Enclosure

end SpanLexer
