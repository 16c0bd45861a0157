import SpanLexer.Proofs.Faults

/-!
Repetitions end, and not because their rounds are counted.

`Unrolls` is a repetition with no bound on its rounds: a run has to be reached in finitely many of
them. When the body keeps the contract, every round that another follows leaves fewer units, so
that run is always reached, and it is the one the bounded rounds give. The fault that stands for a
run without end is therefore never raised.
-/
namespace SpanLexer.Termination
open Scan Matcher Contract Bounds Faults

variable {base : Cursor}

/-- The rounds of a repetition, as many as it takes. -/
inductive Unrolls (label : String) (body : Matcher) : Cursor → Run Unit → Prop where
  | faulted (ran : (round label body).run cursor = ⟨.error fault, stop, trace⟩) :
      Unrolls label body cursor ⟨.error fault, stop, trace⟩
  | finished (ran : (round label body).run cursor = ⟨.ok false, stop, trace⟩) :
      Unrolls label body cursor ⟨.ok (), stop, trace⟩
  | again {done : Run Unit} (ran : (round label body).run cursor = ⟨.ok true, stop, trace⟩)
      (later : Unrolls label body (cursor.moveTo stop) done) :
      Unrolls label body cursor ⟨done.outcome, done.position, trace ++ done.trace⟩

theorem unrolls_unique {done other : Run Unit} (first : Unrolls label body cursor done)
    (second : Unrolls label body cursor other) : done = other := by
  induction first generalizing other with
  | faulted ran =>
    cases second with
    | faulted same => rw [ran] at same; cases same; rfl
    | finished same => rw [ran] at same; cases same
    | again same _ => rw [ran] at same; cases same
  | finished ran =>
    cases second with
    | faulted same => rw [ran] at same; cases same
    | finished same => rw [ran] at same; cases same; rfl
    | again same _ => rw [ran] at same; cases same
  | again ran _ ih =>
    cases second with
    | faulted same => rw [ran] at same; cases same
    | finished same => rw [ran] at same; cases same
    | again same later => rw [ran] at same; cases same; rw [ih later]

theorem round_run_end (drained : cursor.remaining = 0) :
    (round label body).run cursor = ⟨.ok false, cursor.position, []⟩ := by
  change (if cursor.remaining = 0 then pure false else _ : Scan Bool).run cursor = _
  rw [if_pos drained]
  rfl

/-- Where no unit remains there are no rounds, however many there may be. -/
theorem rounds_run_end (drained : cursor.remaining = 0) (bound : Nat) :
    (rounds label body bound).run cursor = ⟨.ok (), cursor.position, []⟩ := by
  cases bound with
  | zero =>
    change (if cursor.remaining = 0 then pure () else raise .endless : Scan Unit).run cursor = _
    rw [if_pos drained]
    rfl
  | succ bound =>
    rw [rounds_succ, run_bind, round_run_end drained]
    rfl

/-- Two bounds that both cover what remains allow the same rounds. -/
theorem rounds_congr (keep : Keeps base body) (ahead : base.Ahead start)
    (enough : base.limit - start ≤ bound) (also : base.limit - start ≤ other) :
    (rounds label body bound).run (base.moveTo start) =
      (rounds label body other).run (base.moveTo start) := by
  induction bound generalizing start other with
  | zero =>
    have drained : (base.moveTo start).remaining = 0 := Nat.eq_zero_of_le_zero enough
    rw [rounds_run_end drained, rounds_run_end drained]
  | succ bound ih =>
    cases other with
    | zero =>
      have drained : (base.moveTo start).remaining = 0 := Nat.eq_zero_of_le_zero also
      rw [rounds_run_end drained, rounds_run_end drained]
    | succ other =>
      rw [rounds_succ, rounds_succ]
      apply run_bind_congr
      intro more middle ran
      cases more with
      | false => rfl
      | true =>
        -- Another round starts further ahead, so what remains shrinks with both bounds.
        have further := round_forward keep ahead ran
        have middleAhead := ahead_trans ahead (round_ahead keep ahead ran)
        exact ih middleAhead (by omega) (by omega)

/-- A repetition is its rounds with one for each unit that remains, wherever its window starts. -/
theorem exhaust_run (valid : base.Valid) (keep : Keeps base body) (ahead : base.Ahead start) :
    (exhaust label body).run (base.moveTo start) =
      (rounds label body (base.limit - start)).run (base.moveTo start) := by
  have low := Nat.le_trans valid.1 ahead.1
  change (rounds label body (base.limit - base.origin)).run (base.moveTo start) = _
  exact rounds_congr keep ahead (Nat.sub_le_sub_left low _) (Nat.le_refl _)

theorem rounds_unroll (keep : Keeps base body) (ahead : base.Ahead start)
    (enough : base.limit - start ≤ bound) :
    Unrolls label body (base.moveTo start) ((rounds label body bound).run (base.moveTo start)) := by
  induction bound generalizing start with
  | zero =>
    have drained : (base.moveTo start).remaining = 0 := Nat.eq_zero_of_le_zero enough
    rw [rounds_run_end drained]
    exact .finished (round_run_end drained)
  | succ bound ih =>
    rw [rounds_succ, run_bind]
    rcases ran : (round label body).run (base.moveTo start) with ⟨fault | more, stop, trace⟩
    · exact .faulted ran
    · cases more with
      | false => simpa using Unrolls.finished ran
      | true =>
        have returned : (round label body).Returns (base.moveTo start) true stop := by
          rw [Returns, ran]
          exact ⟨rfl, rfl⟩
        have further := round_forward keep ahead returned
        have stopAhead := ahead_trans ahead (round_ahead keep ahead returned)
        exact .again ran (ih stopAhead (by omega))

/-- Parts that end by themselves: no predicate and no callable runs without end, and callables keep
the contract. -/
def endingParts (base : Cursor) (call : κ → Matcher) : Demand κ where
  predicate predicate := ∀ unit, predicate.test unit ≠ .error .endless
  observer _ := True
  callable target := Keeps base (call target) ∧
    ∀ start, base.Ahead start → ((call target).run (base.moveTo start)).outcome ≠ .error .endless
  inert := True

private theorem endingParts_within {pattern : Pattern κ}
    (met : pattern.Meets (endingParts base call)) :
    pattern.Meets (partsWithin (· ≠ .endless) base call) := by
  refine met.mono ?_ ?_ ?_ ?_
  · intro predicate ends unit fault refused same
    exact ends unit (same ▸ refused)
  · intro observer _ id message _ impossible
    cases impossible
  · rintro target ⟨keep, ends⟩
    exact ⟨keep, fun start ahead fault stopped same => ends start ahead (same ▸ stopped)⟩
  · intro _ typeName impossible
    cases impossible

/-- Every run of a pattern whose parts end ends. As the body of a repetition, the pattern leaves
fewer units after every round that another follows; without any bound the rounds are finitely
many, and they are those of the bounded repetition, which never reaches its bound. -/
theorem runs_and_repetitions_end (call : κ → Matcher) (pattern : Pattern κ) (cursor : Cursor)
    (valid : cursor.Valid) (met : pattern.Meets (endingParts cursor call)) :
    ((pattern.run call).run cursor).outcome ≠ .error .endless ∧
    ∀ label start, cursor.Ahead start →
      (∀ stop, (round label (pattern.run call)).Returns (cursor.moveTo start) true stop →
        (cursor.moveTo stop).remaining < (cursor.moveTo start).remaining) ∧
      (∀ done, Unrolls label (pattern.run call) (cursor.moveTo start) done ↔
        (exhaust label (pattern.run call)).run (cursor.moveTo start) = done) ∧
      ((exhaust label (pattern.run call)).run (cursor.moveTo start)).outcome ≠
        .error .endless := by
  have within := endingParts_within met
  have keep : Keeps cursor (pattern.run call) := keeps_run met fun target own => own.1
  have own : OwnFaults (· ≠ .endless) cursor := ⟨valid, .inl nofun, .inl nofun⟩
  have stops := run_stopsWithin own within
  refine ⟨fun endless => stops _ (Cursor.ahead_self valid) _ endless rfl, ?_⟩
  intro label start ahead
  refine ⟨?_, ?_, ?_⟩
  · intro stop ran
    have further := round_forward keep ahead ran
    have high := (round_ahead keep ahead ran).2
    simp only [Cursor.remaining_moveTo, Cursor.moveTo_limit] at high ⊢
    omega
  · intro done
    have unrolled : Unrolls label (pattern.run call) (cursor.moveTo start)
        ((exhaust label (pattern.run call)).run (cursor.moveTo start)) := by
      rw [exhaust_run valid keep ahead]
      exact rounds_unroll keep ahead (Nat.le_refl _)
    exact ⟨unrolls_unique unrolled, fun same => same ▸ unrolled⟩
  · intro endless
    exact exhaust_stopsWithin own keep stops ahead _ endless rfl

/-- Repetitions of what may be empty, inside one another, with a callable as a leaf. -/
def nestedRepetition : Pattern Unit :=
  .star (.plus (.optional (.choice [.callable "word" (), .noneOf ['d'] .silent] .silent) .silent)
    .silent) .silent

/-- The matcher the callable stands for. -/
def wordMatcher : Unit → Matcher :=
  fun _ => literal ['a', 'b'] .silent

/-- Octets that were cut off in the middle of the window. -/
def cutOffOctets : Cursor :=
  ⟨.octets .growable [97, 98, 99], 0, 0, 5⟩

theorem nestedRepetition_ends :
    cutOffOctets.Valid ∧ nestedRepetition.Meets (endingParts cutOffOctets wordMatcher) ∧
    ((nestedRepetition.run wordMatcher).run cutOffOctets).position = 3 ∧
    ((nestedRepetition.run wordMatcher).run cutOffOctets).outcome ≠ .error .endless := by
  have valid : cutOffOctets.Valid := by decide
  have own : OwnFaults (· ≠ .endless) cutOffOctets := ⟨valid, .inl nofun, .inl nofun⟩
  have literal : (Pattern.literal ['a', 'b'] .silent).Meets
      (partsWithin (· ≠ .endless) cutOffOctets wordMatcher) := .literal nofun
  have stops : StopsWithin (· ≠ .endless) cutOffOctets (wordMatcher ()) :=
    run_stopsWithin own literal
  have word : (endingParts cutOffOctets wordMatcher).callable () :=
    ⟨keeps_literal _ _, fun start ahead endless => stops start ahead _ endless rfl⟩
  have met : nestedRepetition.Meets (endingParts cutOffOctets wordMatcher) := by
    refine .star (.plus (.optional (.choice ?_ trivial) trivial) trivial) trivial
    intro part member
    simp only [List.mem_cons, List.not_mem_nil, or_false] at member
    rcases member with rfl | rfl
    · exact .callable word
    · exact .unit (fun unit => nofun) trivial
  exact ⟨valid, met, rfl, (runs_and_repetitions_end _ _ _ valid met).1⟩

end SpanLexer.Termination
