import SpanLexer.Proofs.Bounds

/-!
Runs on octets that have been shortened.

A cursor goes on counting the units of its window when the buffer behind it has lost some of them.
A repetition therefore goes on where there is nothing left; a literal does not stand there, but to
ask for a unit is a fault, and the fault passes every sequence and choice around it without the
cursor being put back.

Still no unit that is gone is ever matched. Where a run can come is bounded by its `reach`: the end
of what is left or, when the cursor was already past it, the cursor itself. All positions of the run
are within reach, and a unit can be found missing at the very end of it only.
-/
namespace SpanLexer.Cursor

/-- The buffer has become shorter than the window, as growable octets can. The window once lay in
it, and no buffer has more units than a length can count. -/
structure Shortened (cursor : Cursor) : Prop where
  valid : cursor.Valid
  shorter : cursor.buffer.size < cursor.limit
  short : (cursor.remaining : Int) ≤ Span.maxLength

/-- How far a run can come: to the end of what the buffer holds, or nowhere if the cursor is past
it. -/
def reach (base : Cursor) : Nat :=
  max base.position base.buffer.size

/-- A run can come to the position. -/
def Reaches (base : Cursor) (position : Nat) : Prop :=
  base.position ≤ position ∧ position ≤ base.reach

variable {base : Cursor}

theorem reaches_self (base : Cursor) : base.Reaches base.position :=
  ⟨Nat.le_refl _, Nat.le_max_left _ _⟩

/-- What is within reach is in the window. -/
theorem ahead_of_reaches (shortened : base.Shortened) (reached : base.Reaches here) :
    base.Ahead here := by
  have bound : base.reach ≤ base.limit :=
    Nat.max_le.mpr ⟨shortened.valid.2, Nat.le_of_lt shortened.shorter⟩
  exact ⟨reached.1, Nat.le_trans reached.2 bound⟩

/-- A unit that is found can be consumed without leaving the reach. -/
theorem reaches_next (reached : base.Reaches here)
    (found : (base.moveTo here).unitAt 0 = .ok unit) : base.Reaches (here + 1) := by
  obtain ⟨bound, _⟩ := List.getElem?_eq_some_iff.mp (unitAt_found found).2
  rw [Buffer.length_units] at bound
  exact ⟨Nat.le_succ_of_le reached.1, Nat.le_trans bound (Nat.le_max_right _ _)⟩

/-- A unit is found missing only at the end of the reach. -/
theorem reach_of_gone (reached : base.Reaches here)
    (gone : (base.moveTo here).unitAt 0 = .error .unitGone) : here = base.reach :=
  Nat.le_antisymm reached.2 (Nat.max_le.mpr ⟨reached.1, (unitAt_gone gone).2⟩)

/-- A literal that stands at a position can be consumed without leaving the reach. -/
theorem reaches_literal (reached : base.Reaches here)
    (stands : (base.moveTo here).startsWith text = true) : base.Reaches (here + text.length) := by
  have bound := (prefix_of_startsWith stands).length_le
  rw [List.length_drop, Buffer.length_units] at bound
  change text.length ≤ base.buffer.size - here at bound
  obtain ⟨low, high⟩ := reached
  unfold Reaches reach at *
  omega

end SpanLexer.Cursor

namespace SpanLexer.Shortening
open Scan Matcher Contract

variable {base : Cursor}

/-- The span is empty or ends where the buffer still holds units. -/
def Remains (base : Cursor) (span : Span) : Prop :=
  span.start ≠ span.stop → span.stop ≤ base.buffer.size

/-- Observers are told only spans that remain. -/
def TellsRemaining (base : Cursor) : Event → Prop
  | .observed _ span _ _ => Remains base span
  | _ => True

/-- Only the empty span is within reach behind what the buffer holds. -/
theorem remains_of_reaches (starts : base.Reaches start) (stops : base.Reaches stop) :
    Remains base ⟨(start : Nat), (stop : Nat)⟩ := by
  intro full
  have apart : start ≠ stop := fun same => full (congrArg Nat.cast same)
  simp only [Cursor.Reaches, Cursor.reach, Int.ofNat_le] at *
  omega

/-- Runs stay within reach, they stop only where it ends and only because a unit is gone, and
whatever they tell remains. -/
def remnant (base : Cursor) : Bounds where
  reaches := base.Reaches
  stops fault here := fault = .unitGone ∧ here = base.reach
  leaves := TellsRemaining base

theorem remnant_own (shortened : base.Shortened) : (remnant base).Own base where
  valid := shortened.valid
  ahead := Cursor.ahead_of_reaches shortened
  next := Cursor.reaches_next
  literal := Cursor.reaches_literal
  gone reached gone := ⟨rfl, Cursor.reach_of_gone reached gone⟩
  long starts stops overflow := by
    have low := starts.1
    have high := (Cursor.ahead_of_reaches shortened stops).2
    have short := shortened.short
    simp only [Cursor.remaining] at short
    omega
  tested _ _ _ := trivial
  observed _ starts stops _ := remains_of_reaches starts stops

/-- Parts that do not fault by themselves: predicates answer, observers let the run go on, and
callables stop only because a unit is gone, where the units end. -/
def enduring (base : Cursor) (call : κ → Matcher) : Demand κ where
  predicate predicate := ∀ unit, ∃ answer, predicate.test unit = .ok answer
  observer := Observer.Quiet
  callable target := Keeps base (call target) ∧ (remnant base).Governs base (call target)
  inert := False

/-- The runs of a pattern whose parts endure are bounded by what remains. -/
theorem run_bounded {call : κ → Matcher} {pattern : Pattern κ} (shortened : base.Shortened)
    (met : pattern.Meets (enduring base call)) :
    (remnant base).Governs base (pattern.run call) := by
  refine Bounds.governs_run (remnant_own shortened) (met.mono ?_ ?_ ?_ ?_) ?_
  · exact fun _ answers => Predicate.faultsWithin_of_answers answers _
  · exact fun _ quiet => Observer.faultsWithin_of_quiet quiet (remnant base).Tolerates
  · exact fun _ own => own
  · exact False.elim
  · exact fun _ _ => Bounds.warnsWithin_of_allowed trivial

/-- Let the buffer behind a cursor have become shorter than the window, and let a pattern run whose
parts do not fault. Either the run returns, or it stops because a unit is gone, and then at the end
of what the buffer holds or, if the cursor was already past it, where it was. It never ends before
the cursor or any further on; and every span that it matches or tells an observer, also in branches
that are given up, is empty or ends where the buffer still holds units. -/
theorem run_ends_with_the_units (call : κ → Matcher) (pattern : Pattern κ) (cursor : Cursor)
    (shortened : cursor.Shortened) (met : pattern.Meets (enduring cursor call)) :
    (∀ fault, ((pattern.run call).run cursor).outcome = .error fault →
      fault.kind = .wrongIndex ∧ fault.message? = some "bytearray index out of range" ∧
      ((pattern.run call).run cursor).position = max cursor.position cursor.buffer.size) ∧
    cursor.position ≤ ((pattern.run call).run cursor).position ∧
    ((pattern.run call).run cursor).position ≤ max cursor.position cursor.buffer.size ∧
    ∀ span, (((pattern.run call).run cursor).outcome = .ok (some span) ∨
        ∃ sink text here, .observed sink span text here ∈ ((pattern.run call).run cursor).trace) →
      span.start ≠ span.stop → span.stop ≤ cursor.buffer.size := by
  have here := Cursor.reaches_self cursor
  have ahead := Cursor.ahead_self shortened.valid
  have bounded : (remnant cursor).Admits ((pattern.run call).run cursor) :=
    run_bounded shortened met _ here
  have reached : cursor.Reaches ((pattern.run call).run cursor).position := by
    cases ended : ((pattern.run call).run cursor).outcome with
    | ok result => exact bounded.reaches result ended
    | error fault =>
      rw [(bounded.stops fault ended).2]
      exact ⟨Nat.le_max_left _ _, Nat.le_refl _⟩
  refine ⟨?_, reached.1, reached.2, ?_⟩
  · intro fault stopped
    obtain ⟨rfl, end_reached⟩ := bounded.stops fault stopped
    exact ⟨rfl, rfl, end_reached⟩
  · rintro span (matched | ⟨sink, text, position, told⟩)
    · have keep : Keeps cursor (pattern.run call) := keeps_run met fun target own => own.1
      obtain ⟨rfl, _⟩ := keep _ _ _ ahead ⟨matched, rfl⟩
      exact remains_of_reaches here reached
    · exact bounded.leaves _ told

/-- A pair of letters with a third one behind it, or else any units. -/
def lettersOrAny : Pattern Empty :=
  .choice [.seq [.literal ['a', 'b'] (.record "pair"), .literal ['c'] .silent] .silent,
    .plus (.ofClass .any (.record "unit")) .silent] .silent

/-- Five octets of which two are left. -/
def twoLeft : Cursor :=
  ⟨((Source.growable [97, 98, 99, 100, 101]).truncate 2).contents, 0, 0, 5⟩

private theorem lettersOrAny_endures (base : Cursor) :
    lettersOrAny.Meets (enduring base Empty.elim) := by
  apply Pattern.Meets.choice
  · intro part member
    simp only [List.mem_cons, List.not_mem_nil, or_false] at member
    rcases member with rfl | rfl
    · exact .pair (.literal trivial) (.literal trivial) trivial
    · exact .plus (.unit (fun unit => ⟨true, rfl⟩) trivial) trivial
  · trivial

/-- The third letter is gone, which is a miss for the literal. The units are tried instead, and now
it is a fault; the cursor stays behind the second one. From a position that is gone itself, the run
does not get anywhere. -/
theorem lettersOrAny_ends :
    twoLeft.Shortened ∧ lettersOrAny.Meets (enduring twoLeft Empty.elim) ∧
    ((lettersOrAny.run Empty.elim).run twoLeft).outcome = .error .unitGone ∧
    ((lettersOrAny.run Empty.elim).run twoLeft).position = 2 ∧
    .observed (.log "pair") ⟨0, 2⟩ ['a', 'b'] 2 ∈
      ((lettersOrAny.run Empty.elim).run twoLeft).trace ∧
    (2 : Int) ≤ twoLeft.buffer.size ∧
    ((lettersOrAny.run Empty.elim).run (twoLeft.moveTo 3)).outcome = .error .unitGone ∧
    ((lettersOrAny.run Empty.elim).run (twoLeft.moveTo 3)).position = 3 := by
  have shortened : twoLeft.Shortened := ⟨by decide, by decide, by decide⟩
  have further : (twoLeft.moveTo 3).Shortened := ⟨by decide, by decide, by decide⟩
  obtain ⟨stops, _, _, spans⟩ :=
    run_ends_with_the_units _ _ twoLeft shortened (lettersOrAny_endures _)
  obtain ⟨stopsThere, _⟩ :=
    run_ends_with_the_units _ _ (twoLeft.moveTo 3) further (lettersOrAny_endures _)
  have told : .observed (.log "pair") ⟨0, 2⟩ ['a', 'b'] 2 ∈
      ((lettersOrAny.run Empty.elim).run twoLeft).trace := by decide
  refine ⟨shortened, lettersOrAny_endures _, by rfl, (stops .unitGone (by rfl)).2.2, told, ?_,
    by rfl, (stopsThere .unitGone (by rfl)).2.2⟩
  exact spans ⟨0, 2⟩ (.inr ⟨_, _, _, told⟩) (by decide)

end SpanLexer.Shortening
