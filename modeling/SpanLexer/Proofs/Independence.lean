import SpanLexer.Proofs.Pairing

/-!
A run depends on the units that remain and on nothing else.

Two windows with the same units from their positions on may be stored in different ways, stand at
different places of their buffers and have anything around them: a pattern has the same run on
both, only with all positions moved by the distance between the two it started from.
-/
namespace SpanLexer.Independence
open Scan

/-- The same span, so much further on. -/
def shiftSpan (distance : Int) (span : Span) : Span :=
  ⟨span.start + distance, span.stop + distance⟩

/-- The same event of a run over patterns, so much further on: a predicate was asked about the same
unit, an observer was told the same text, or the same warning was left. -/
inductive ShiftedEvent (distance : Int) : Event → Event → Prop where
  | tested {here there : Nat} (moved : (there : Int) = here + distance) :
      ShiftedEvent distance (.tested here unit shown) (.tested there unit shown)
  | observed {here there : Nat} (moved : (there : Int) = here + distance) :
      ShiftedEvent distance (.observed sink span text here)
        (.observed sink (shiftSpan distance span) text there)
  | emptyRound : ShiftedEvent distance (.emptyRound label) (.emptyRound label)

/-- The same run of a matcher, so much further on: with the same fault, without a match, or with the
same span moved; what happened in it is the same, event by event. -/
structure ShiftedRun (distance : Int) (one two : Run (Option Span)) : Prop where
  outcome : two.outcome = one.outcome.map (Option.map (shiftSpan distance))
  position : (two.position : Int) = one.position + distance
  trace : List.Forall₂ (ShiftedEvent distance) one.trace two.trace

variable {first second : Cursor}

/-- Both windows lie in their buffers, and the same units remain of them. -/
structure SameRest (first second : Cursor) : Prop where
  inside : first.Inside
  inside' : second.Inside
  rest : first.rest = second.rest

/-- Positions as far from where the one cursor is as from where the other one is. -/
def SameOffset (first second : Cursor) (here there : Nat) : Prop :=
  first.Ahead here ∧ second.Ahead there ∧
    (there : Int) = here + ((second.position : Int) - first.position)

theorem sameOffset_start (same : SameRest first second) :
    SameOffset first second first.position second.position :=
  ⟨Cursor.ahead_self same.inside.1, Cursor.ahead_self same.inside'.1, by omega⟩

theorem sameOffset_distance {start start' stop stop' : Nat}
    (starts : SameOffset first second start start') (stops : SameOffset first second stop stop') :
    (stop : Int) - start = stop' - start' := by
  have startMoved := starts.2.2
  have stopMoved := stops.2.2
  omega

private theorem offset_eq (paired : SameOffset first second here there) :
    here - first.position = there - second.position := by
  obtain ⟨ahead, ahead', moved⟩ := paired
  have low := ahead.1
  have low' := ahead'.1
  omega

/-- From positions of the same offset the same units remain. -/
theorem sameRest_moveTo (same : SameRest first second)
    (paired : SameOffset first second here there) :
    SameRest (first.moveTo here) (second.moveTo there) := by
  have inside := Cursor.inside_moveTo same.inside paired.1
  have inside' := Cursor.inside_moveTo same.inside' paired.2.1
  refine ⟨inside, inside', ?_⟩
  rw [Cursor.rest_moveTo same.inside paired.1, Cursor.rest_moveTo same.inside' paired.2.1,
    same.rest, offset_eq paired]

theorem remaining_eq_remaining (same : SameRest first second) :
    first.remaining = second.remaining := by
  rw [← Cursor.length_rest same.inside, ← Cursor.length_rest same.inside', same.rest]

theorem startsWith_eq_startsWith (same : SameRest first second) (literal : List Char) :
    first.startsWith literal = second.startsWith literal := by
  rw [Bool.eq_iff_iff, Cursor.startsWith_iff same.inside, Cursor.startsWith_iff same.inside',
    same.rest]

theorem unitAt_eq_unitAt (same : SameRest first second) : first.unitAt 0 = second.unitAt 0 := by
  cases units : first.rest with
  | nil =>
    have drained : first.remaining = 0 := (Cursor.remaining_eq_zero_iff same.inside).mpr units
    have drained' : second.remaining = 0 := remaining_eq_remaining same ▸ drained
    simp [Cursor.unitAt, drained, drained']
  | cons unit others =>
    have units' : second.rest = unit :: others := same.rest ▸ units
    rw [Cursor.unitAt_zero same.inside units, Cursor.unitAt_zero same.inside' units']

/-- Spans of the same offsets read the same. -/
theorem textOf_eq_textOf (same : SameRest first second)
    (starts : SameOffset first second start start') (stops : SameOffset first second stop stop') :
    first.buffer.textOf ⟨(start : Nat), (stop : Nat)⟩ =
      second.buffer.textOf ⟨(start' : Nat), (stop' : Nat)⟩ := by
  have amount : stop - start = stop' - start' := by
    have apart := sameOffset_distance starts stops
    omega
  rw [Cursor.textOf_ahead same.inside starts.1 stops.1,
    Cursor.textOf_ahead same.inside' starts.2.1 stops.2.1, same.rest, offset_eq starts, amount]

theorem sameOffset_advance (same : SameRest first second)
    (paired : SameOffset first second here there) (room : here + amount ≤ first.limit) :
    SameOffset first second (here + amount) (there + amount) := by
  obtain ⟨ahead, ahead', moved⟩ := paired
  have left := remaining_eq_remaining same
  simp only [SameOffset, Cursor.Ahead, Cursor.remaining] at *
  omega

/-- Windows of which the same units remain look alike, position by position. -/
def shifting (same : SameRest first second) : Pairing where
  first := first
  second := second
  positions := SameOffset first second
  traces := List.Forall₂ (ShiftedEvent ((second.position : Int) - first.position))
  valid := ⟨same.inside.1, same.inside'.1⟩
  ahead paired := ⟨paired.1, paired.2.1⟩
  distance starts stops := sameOffset_distance starts stops
  remaining paired := remaining_eq_remaining (sameRest_moveTo same paired)
  startsWith literal paired := startsWith_eq_startsWith (sameRest_moveTo same paired) literal
  unitAt paired := unitAt_eq_unitAt (sameRest_moveTo same paired)
  advance paired room := sameOffset_advance same paired room
  nothing := .nil
  append before later := List.rel_append before later
  tested _ _ paired := .cons (.tested paired.2.2) .nil
  emptyRound _ := .cons .emptyRound .nil

private theorem told_record (same : SameRest first second) (sink : Sink)
    {here there start start' stop stop' : Nat} (starts : SameOffset first second start start')
    (stops : SameOffset first second stop stop') (paired : SameOffset first second here there) :
    (shifting same).AlignedAt (· = ·) (record sink ⟨start, stop⟩) (record sink ⟨start', stop'⟩)
      here there := by
  refine ⟨.returned rfl, paired, .cons ?_ .nil⟩
  have moved : (⟨start', stop'⟩ : Span) =
      shiftSpan ((second.position : Int) - first.position) ⟨start, stop⟩ := by
    simp only [shiftSpan, starts.2.2, stops.2.2]
  change ShiftedEvent _ (.observed sink ⟨start, stop⟩ (first.buffer.textOf ⟨start, stop⟩) here)
    (.observed sink ⟨start', stop'⟩ (second.buffer.textOf ⟨start', stop'⟩) there)
  rw [textOf_eq_textOf same starts stops, moved]
  exact .observed paired.2.2

/-- Every observer does the same in both runs. -/
theorem told_self (same : SameRest first second) (observer : Observer) :
    (shifting same).Told observer observer := by
  intro start start' stop stop' here there starts stops paired
  cases observer with
  | silent => exact Pairing.alignedAt_pure paired rfl
  | record id => exact told_record same _ starts stops paired
  | collect list => exact told_record same _ starts stops paired
  | interrupt id message =>
    refine Pairing.alignedAt_bind (told_record same _ starts stops paired) ?_
    intro _ _ _ _ _ after _
    exact Pairing.alignedAt_raise after

private theorem shiftedRun_of_runs {same : SameRest first second} {one two : Run (Option Span)}
    (runs : (shifting same).Runs (shifting same).Spans one two) :
    ShiftedRun ((second.position : Int) - first.position) one two := by
  obtain ⟨outcomes, positions, traces⟩ := runs
  refine ⟨?_, positions.2.2, traces⟩
  rcases one with ⟨outcome, position, trace⟩
  rcases two with ⟨outcome', position', trace'⟩
  cases outcomes with
  | stopped fault => rfl
  | returned spans =>
    cases spans with
    | missed => rfl
    | matched starts stops =>
      simp only [Except.map, Option.map_some, shiftSpan, starts.2.2, stops.2.2]

/-- On two windows that lie in their buffers and from which the same units remain, a pattern without
callables has the same run, all positions moved by the distance between the two cursors: the outcome
is the same, and so is everything the predicates are asked, the observers are told and the
repetitions warn about. How the units are stored, what else the buffers hold and where the windows
start and end does not matter. -/
theorem run_depends_on_rest (library : Library) (pattern : Pattern Callable)
    (first second : Cursor) (inside : first.Inside) (inside' : second.Inside)
    (same : first.rest = second.rest) (met : pattern.Meets (.ofCallables fun _ => False)) :
    ShiftedRun ((second.position : Int) - first.position) ((library.run pattern).run first)
      ((library.run pattern).run second) := by
  have alike : SameRest first second := ⟨inside, inside', same⟩
  -- The windows differ in extent, so the runs differ in how deep calls may be nested; without
  -- callables that is never asked.
  have parts : pattern.Meets ((shifting alike).parts
      (library.call (library.depth pattern (first.limit - first.origin)))
      (library.call (library.depth pattern (second.limit - second.origin)))) := by
    refine met.mono (fun _ _ => trivial) ?_ ?_ fun _ => trivial
    · exact fun observer _ => told_self alike observer
    · exact fun _ impossible => impossible.elim
  exact shiftedRun_of_runs (Pairing.aligned_run parts _ _ (sameOffset_start alike))

/-- Units up to a semicolon, each of them optional, and then the semicolon, whose observer stops the
run. -/
def upToSemicolon : Pattern Callable :=
  .seq [.star (.optional (.noneOf [';'] (.record "unit")) .silent) (.collect "all"),
    .literal [';'] (.interrupt "end" "stop")] .silent

/-- Octets of a view, with other octets on both sides of the window. -/
def octetWindow : Cursor :=
  ⟨.octets .view [120, 97, 233, 59, 97], 1, 1, 4⟩

/-- The same units in a text, past characters that no octet stands for. -/
def textWindow : Cursor :=
  ⟨.text ['Ω', 'x', 'a', 'é', ';', 'é'], 0, 2, 5⟩

/-- The same observer stops both runs, after the same warning, one position apart. -/
theorem upToSemicolon_shifted :
    octetWindow.Inside ∧ textWindow.Inside ∧ octetWindow.rest = textWindow.rest ∧
    ((Library.run [] upToSemicolon).run octetWindow).outcome = .error (.raised "stop") ∧
    .emptyRound "maybe(none_of)" ∈ ((Library.run [] upToSemicolon).run octetWindow).trace ∧
    ShiftedRun 1 ((Library.run [] upToSemicolon).run octetWindow)
      ((Library.run [] upToSemicolon).run textWindow) := by
  have inside : octetWindow.Inside := by decide
  have inside' : textWindow.Inside := by decide
  have same : octetWindow.rest = textWindow.rest := by decide
  have met : upToSemicolon.Meets (.ofCallables fun _ => False) := by
    refine .seq ?_ trivial
    intro part member
    simp only [List.mem_cons, List.not_mem_nil, or_false] at member
    rcases member with rfl | rfl
    · exact .star (.optional (.unit trivial trivial) trivial) trivial
    · exact .literal trivial
  have shifted := run_depends_on_rest [] upToSemicolon _ _ inside inside' same met
  exact ⟨inside, inside', same, by rfl, by decide, shifted⟩

end SpanLexer.Independence
