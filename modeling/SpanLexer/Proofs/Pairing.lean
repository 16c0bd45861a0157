import SpanLexer.Proofs.Termination
import Mathlib.Data.List.Forall2

/-!
Two runs side by side, on two cursors.

A `Pairing` says which positions of two windows correspond and which traces do; the windows look
alike from positions that correspond. Two scans are aligned when, from such positions, both return
values that correspond or both stop with the same fault, again at positions that correspond and with
traces that do. Every combinator aligns the matchers it makes of aligned ones, whatever the two
windows have in common otherwise.
-/
namespace SpanLexer

/-- Two windows that look alike from positions that correspond. -/
structure Pairing where
  first : Cursor
  second : Cursor
  positions : Nat → Nat → Prop
  traces : Trace → Trace → Prop
  valid : first.Valid ∧ second.Valid
  ahead {here there : Nat} : positions here there → first.Ahead here ∧ second.Ahead there
  distance {start start' stop stop' : Nat} : positions start start' → positions stop stop' →
    (stop : Int) - start = stop' - start'
  remaining {here there : Nat} : positions here there → first.limit - here = second.limit - there
  startsWith {here there : Nat} (literal : List Char) : positions here there →
    (first.moveTo here).startsWith literal = (second.moveTo there).startsWith literal
  unitAt {here there : Nat} : positions here there →
    (first.moveTo here).unitAt 0 = (second.moveTo there).unitAt 0
  advance {here there amount : Nat} : positions here there → here + amount ≤ first.limit →
    positions (here + amount) (there + amount)
  nothing : traces [] []
  append {one two later later' : Trace} : traces one two → traces later later' →
    traces (one ++ later) (two ++ later')
  tested {here there : Nat} (unit : Char) (shown : Bool) : positions here there →
    traces [.tested here unit shown] [.tested there unit shown]
  emptyRound (label : String) : traces [.emptyRound label] [.emptyRound label]

namespace Pairing
open Scan Matcher Contract

/-- Both give values, which correspond, or both the same fault. -/
inductive Outcomes (values : α → β → Prop) : Except Fault α → Except Fault β → Prop where
  | returned (same : values one two) : Outcomes values (.ok one) (.ok two)
  | stopped (fault : Fault) : Outcomes values (.error fault) (.error fault)

/-- Two runs that correspond in everything they leave behind. -/
structure Runs (pairing : Pairing) (values : α → β → Prop) (one : Run α) (two : Run β) : Prop where
  outcomes : Outcomes values one.outcome two.outcome
  positions : pairing.positions one.position two.position
  traces : pairing.traces one.trace two.trace

/-- Both scans, each from its own position, have runs that correspond. -/
def AlignedAt (pairing : Pairing) (values : α → β → Prop) (one : Scan α) (two : Scan β)
    (here there : Nat) : Prop :=
  pairing.Runs values (one.run (pairing.first.moveTo here)) (two.run (pairing.second.moveTo there))

/-- Matched spans correspond when both their ends do. -/
inductive Spans (pairing : Pairing) : Option Span → Option Span → Prop where
  | missed : Spans pairing none none
  | matched {start start' stop stop' : Nat} (starts : pairing.positions start start')
      (stops : pairing.positions stop stop') :
      Spans pairing (some ⟨start, stop⟩) (some ⟨start', stop'⟩)

/-- The matchers are aligned wherever they start from positions that correspond. -/
def Aligned (pairing : Pairing) (one two : Matcher) : Prop :=
  ∀ here there, pairing.positions here there → pairing.AlignedAt pairing.Spans one two here there

/-- Being told spans that correspond, the observers leave traces that do, and stop neither run or
both. -/
def Told (pairing : Pairing) (observer other : Observer) : Prop :=
  ∀ start start' stop stop' here there, pairing.positions start start' →
    pairing.positions stop stop' → pairing.positions here there →
    pairing.AlignedAt (· = ·) (notify observer ⟨(start : Nat), (stop : Nat)⟩)
      (notify other ⟨(start' : Nat), (stop' : Nat)⟩) here there

variable {pairing : Pairing}

/-- Aligned scans followed by aligned ones are aligned. Where the next ones start is known from the
run of the first scan. -/
theorem alignedAt_bind {one : Scan α} {two : Scan β} {next : α → Scan γ} {next' : β → Scan δ}
    (before : pairing.AlignedAt values one two here there)
    (later : ∀ value value' middle middle', values value value' →
      pairing.positions middle middle' → one.Returns (pairing.first.moveTo here) value middle →
      pairing.AlignedAt others (next value) (next' value') middle middle') :
    pairing.AlignedAt others (one >>= next) (two >>= next') here there := by
  obtain ⟨outcomes, positions, traces⟩ := before
  simp only [AlignedAt, run_bind]
  cases ended : (one.run (pairing.first.moveTo here)).outcome with
  | error fault =>
    rw [ended] at outcomes
    cases ended' : (two.run (pairing.second.moveTo there)).outcome with
    | error fault' =>
      rw [ended'] at outcomes
      cases outcomes
      exact ⟨.stopped fault, positions, traces⟩
    | ok value' =>
      rw [ended'] at outcomes
      cases outcomes
  | ok value =>
    rw [ended] at outcomes
    cases ended' : (two.run (pairing.second.moveTo there)).outcome with
    | error fault' =>
      rw [ended'] at outcomes
      cases outcomes
    | ok value' =>
      rw [ended'] at outcomes
      cases outcomes with
      | returned same =>
        have rest := later value value' _ _ same positions ⟨ended, rfl⟩
        exact ⟨rest.outcomes, rest.positions, pairing.append traces rest.traces⟩

/-- Looking at the cursors leaves them where they are. -/
theorem alignedAt_ask_bind {question : Cursor → α} {question' : Cursor → β} {next : α → Scan γ}
    {next' : β → Scan δ}
    (later : pairing.AlignedAt values (next (question (pairing.first.moveTo here)))
      (next' (question' (pairing.second.moveTo there))) here there) :
    pairing.AlignedAt values (ask question >>= next) (ask question' >>= next') here there :=
  later

theorem alignedAt_pure (paired : pairing.positions here there) (same : values value value') :
    pairing.AlignedAt values (pure value) (pure value') here there :=
  ⟨.returned same, paired, pairing.nothing⟩

theorem alignedAt_raise (paired : pairing.positions here there) {values : α → β → Prop} :
    pairing.AlignedAt values (raise fault) (raise fault) here there :=
  ⟨.stopped fault, paired, pairing.nothing⟩

theorem alignedAt_lift (paired : pairing.positions here there) (given : Except Fault α) :
    pairing.AlignedAt (· = ·) (lift given) (lift given) here there := by
  refine ⟨?_, paired, pairing.nothing⟩
  cases given with
  | error fault => exact .stopped fault
  | ok value => exact .returned rfl

theorem alignedAt_unitAt (paired : pairing.positions here there) :
    pairing.AlignedAt (· = ·) (Scan.unitAt 0) (Scan.unitAt 0) here there := by
  have lifted := alignedAt_lift paired ((pairing.first.moveTo here).unitAt 0)
  refine ⟨?_, paired, pairing.nothing⟩
  change Outcomes (· = ·) ((pairing.first.moveTo here).unitAt 0)
    ((pairing.second.moveTo there).unitAt 0)
  rw [← pairing.unitAt paired]
  exact lifted.outcomes

/-- What remains of the one window remains of the other. -/
theorem remaining_eq (paired : pairing.positions here there) :
    (pairing.first.moveTo here).remaining = (pairing.second.moveTo there).remaining :=
  pairing.remaining paired

theorem alignedAt_advance (paired : pairing.positions here there)
    (short : amount ≤ (pairing.first.moveTo here).remaining) :
    pairing.AlignedAt (· = ·) (Scan.advance (amount : Nat)) (Scan.advance (amount : Nat))
      here there := by
  have short' : amount ≤ (pairing.second.moveTo there).remaining := remaining_eq paired ▸ short
  have room : here + amount ≤ pairing.first.limit := by
    have high := (pairing.ahead paired).1.2
    simp only [Cursor.remaining_moveTo] at short
    omega
  rw [AlignedAt, run_advance short, run_advance short']
  exact ⟨.returned rfl, pairing.advance paired room, pairing.nothing⟩

/-- Both cursors can go back to positions that correspond. -/
theorem alignedAt_seek (target : pairing.positions start start') :
    pairing.AlignedAt (· = ·) (seek start) (seek start') here there := by
  obtain ⟨first, second⟩ := pairing.ahead target
  have low : (pairing.first.moveTo here).origin ≤ start :=
    Nat.le_trans pairing.valid.1.1 first.1
  have low' : (pairing.second.moveTo there).origin ≤ start' :=
    Nat.le_trans pairing.valid.2.1 second.1
  rw [AlignedAt, run_seek low first.2, run_seek low' second.2]
  exact ⟨.returned rfl, target, pairing.nothing⟩

theorem alignedAt_notify (told : pairing.Told observer other)
    (paired : pairing.positions here there) (starts : pairing.positions start start')
    (stops : pairing.positions stop stop') :
    pairing.AlignedAt pairing.Spans
      (notify observer ⟨(start : Nat), (stop : Nat)⟩ >>= fun _ => pure (some ⟨start, stop⟩))
      (notify other ⟨(start' : Nat), (stop' : Nat)⟩ >>= fun _ => pure (some ⟨start', stop'⟩))
      here there := by
  refine alignedAt_bind (told _ _ _ _ _ _ starts stops paired) ?_
  intro _ _ _ _ _ middle _
  exact alignedAt_pure middle (.matched starts stops)

theorem alignedAt_conclude (told : pairing.Told observer other)
    (paired : pairing.positions here there) (starts : pairing.positions start start') :
    pairing.AlignedAt pairing.Spans (conclude start observer) (conclude start' other)
      here there := by
  unfold conclude
  refine alignedAt_ask_bind ?_
  exact alignedAt_notify told paired starts paired

theorem alignedAt_ask_predicate (paired : pairing.positions here there) (predicate : Predicate) :
    pairing.AlignedAt (· = ·) predicate.ask predicate.ask here there := by
  unfold Predicate.ask
  refine alignedAt_bind (alignedAt_unitAt paired) ?_
  rintro unit _ middle middle' rfl between _
  refine alignedAt_ask_bind ?_
  have emitted : pairing.AlignedAt (· = ·) (emit (.tested middle unit predicate.shown))
      (emit (.tested middle' unit predicate.shown)) middle middle' :=
    ⟨.returned rfl, between, pairing.tested unit predicate.shown between⟩
  refine alignedAt_bind emitted ?_
  intro _ _ _ _ _ after _
  exact alignedAt_lift after (predicate.test unit)

theorem aligned_unit (told : pairing.Told observer other) (predicate : Predicate) :
    pairing.Aligned (unit predicate observer) (unit predicate other) := by
  intro here there paired
  unfold unit
  refine alignedAt_ask_bind ?_
  rw [← remaining_eq paired]
  split
  · exact alignedAt_pure paired .missed
  · rename_i left
    refine alignedAt_bind (alignedAt_ask_predicate paired predicate) ?_
    rintro answer _ middle middle' rfl between asked
    obtain ⟨_, _, _, rfl⟩ := returns_ask_predicate.mp asked
    split
    · refine alignedAt_ask_bind ?_
      refine alignedAt_bind (alignedAt_advance between (Nat.one_le_iff_ne_zero.mpr left)) ?_
      intro _ _ _ _ _ after _
      exact alignedAt_conclude told after between
    · exact alignedAt_pure between .missed

theorem aligned_literal (told : pairing.Told observer other) (text : List Char) :
    pairing.Aligned (literal text observer) (literal text other) := by
  intro here there paired
  unfold literal
  refine alignedAt_ask_bind ?_
  rw [← pairing.startsWith text paired]
  split
  · rename_i stands
    refine alignedAt_ask_bind ?_
    refine alignedAt_bind (alignedAt_advance paired (Cursor.length_le_of_startsWith stands)) ?_
    intro _ _ _ _ _ after _
    exact alignedAt_conclude told after paired
  · exact alignedAt_pure paired .missed

private theorem alignedAt_allMatch {parts parts' : List Matcher}
    (each : List.Forall₂ pairing.Aligned parts parts') (paired : pairing.positions here there) :
    pairing.AlignedAt (· = ·) (allMatch parts) (allMatch parts') here there := by
  induction each generalizing here there with
  | nil => exact alignedAt_pure paired rfl
  | cons head _ ih =>
    unfold allMatch
    refine alignedAt_bind (head here there paired) ?_
    intro matched matched' middle middle' same between _
    cases same with
    | missed => exact alignedAt_pure between rfl
    | matched => exact ih between

theorem aligned_seq {parts parts' : List Matcher}
    (each : List.Forall₂ pairing.Aligned parts parts') (told : pairing.Told observer other) :
    pairing.Aligned (seq parts observer) (seq parts' other) := by
  intro here there paired
  unfold seq
  refine alignedAt_ask_bind ?_
  refine alignedAt_bind (alignedAt_allMatch each paired) ?_
  rintro all _ middle middle' rfl between _
  split
  · exact alignedAt_conclude told between paired
  · refine alignedAt_bind (alignedAt_seek paired) ?_
    intro _ _ _ _ _ after _
    exact alignedAt_pure after .missed

theorem alignedAt_observed (matchers : pairing.AlignedAt pairing.Spans one two here there)
    (told : pairing.Told observer other) :
    pairing.AlignedAt pairing.Spans (observed one observer) (observed two other) here there := by
  unfold observed
  refine alignedAt_bind matchers ?_
  intro matched matched' middle middle' same between _
  cases same with
  | missed => exact alignedAt_pure between .missed
  | matched starts stops => exact alignedAt_notify told between starts stops

private theorem alignedAt_firstMatch {alternatives alternatives' : List Matcher}
    (each : List.Forall₂ pairing.Aligned alternatives alternatives')
    (starts : pairing.positions start start') (paired : pairing.positions here there) :
    pairing.AlignedAt pairing.Spans (firstMatch start alternatives)
      (firstMatch start' alternatives') here there := by
  induction each generalizing here there with
  | nil => exact alignedAt_pure paired .missed
  | cons head _ ih =>
    unfold firstMatch
    refine alignedAt_bind (head here there paired) ?_
    intro matched matched' middle middle' same between _
    cases same with
    | matched first last => exact alignedAt_pure between (.matched first last)
    | missed =>
      refine alignedAt_bind (alignedAt_seek starts) ?_
      intro _ _ _ _ _ after _
      exact ih after

theorem aligned_choice {alternatives alternatives' : List Matcher}
    (each : List.Forall₂ pairing.Aligned alternatives alternatives')
    (told : pairing.Told observer other) :
    pairing.Aligned (choice alternatives observer) (choice alternatives' other) := by
  intro here there paired
  rw [choice_eq_observed, choice_eq_observed]
  refine alignedAt_ask_bind ?_
  exact alignedAt_observed (alignedAt_firstMatch each paired paired) told

theorem aligned_optional (bodies : pairing.Aligned body body')
    (told : pairing.Told observer other) :
    pairing.Aligned (Matcher.optional body observer) (Matcher.optional body' other) := by
  intro here there paired
  unfold Matcher.optional
  refine alignedAt_bind (bodies here there paired) ?_
  intro matched matched' middle middle' same between _
  cases same with
  | matched starts stops => exact alignedAt_notify told between starts stops
  | missed =>
    refine alignedAt_ask_bind ?_
    exact alignedAt_conclude told between between

/-- Spans that correspond have the same length, or neither has one. -/
theorem length?_eq {start start' stop stop' : Nat} (starts : pairing.positions start start')
    (stops : pairing.positions stop stop') :
    (⟨start, stop⟩ : Span).length? = (⟨start', stop'⟩ : Span).length? := by
  simp only [Span.length?, pairing.distance starts stops]

private theorem alignedAt_round (bodies : pairing.Aligned body body')
    (paired : pairing.positions here there) :
    pairing.AlignedAt (· = ·) (round label body) (round label body') here there := by
  unfold Matcher.round
  refine alignedAt_ask_bind ?_
  rw [← remaining_eq paired]
  split
  · exact alignedAt_pure paired rfl
  · refine alignedAt_bind (bodies here there paired) ?_
    intro matched matched' middle middle' same between _
    cases same with
    | missed => exact alignedAt_pure between rfl
    | matched starts stops =>
      simp only [length?_eq starts stops]
      refine alignedAt_bind (alignedAt_lift between _) ?_
      rintro length _ last last' rfl after _
      split
      · have warned : pairing.AlignedAt (· = ·) (emit (.emptyRound label))
            (emit (.emptyRound label)) last last' :=
          ⟨.returned rfl, after, pairing.emptyRound label⟩
        refine alignedAt_bind warned ?_
        intro _ _ _ _ _ ended _
        exact alignedAt_pure ended rfl
      · exact alignedAt_pure after rfl

theorem alignedAt_rounds (bodies : pairing.Aligned body body') (bound : Nat)
    (paired : pairing.positions here there) :
    pairing.AlignedAt (· = ·) (rounds label body bound) (rounds label body' bound)
      here there := by
  induction bound generalizing here there with
  | zero =>
    unfold rounds
    refine alignedAt_ask_bind ?_
    rw [← remaining_eq paired]
    split
    · exact alignedAt_pure paired rfl
    · exact alignedAt_raise paired
  | succ bound ih =>
    rw [rounds_succ, rounds_succ]
    refine alignedAt_bind (alignedAt_round bodies paired) ?_
    rintro more _ middle middle' rfl between _
    cases more with
    | false => exact alignedAt_pure between rfl
    | true => exact ih between

/-- The two windows need not be of the same extent: both repetitions have as many rounds as there
are units left. -/
theorem alignedAt_exhaust (keep : Keeps pairing.first body) (keep' : Keeps pairing.second body')
    (bodies : pairing.Aligned body body') (paired : pairing.positions here there) :
    pairing.AlignedAt (· = ·) (exhaust label body) (exhaust label body') here there := by
  obtain ⟨ahead, ahead'⟩ := pairing.ahead paired
  rw [AlignedAt, Termination.exhaust_run pairing.valid.1 keep ahead,
    Termination.exhaust_run pairing.valid.2 keep' ahead', ← pairing.remaining paired]
  exact alignedAt_rounds bodies _ paired

theorem aligned_star (keep : Keeps pairing.first body) (keep' : Keeps pairing.second body')
    (bodies : pairing.Aligned body body') (told : pairing.Told observer other) (label : String) :
    pairing.Aligned (star label body observer) (star label body' other) := by
  intro here there paired
  unfold Matcher.star
  refine alignedAt_ask_bind ?_
  refine alignedAt_bind (alignedAt_exhaust keep keep' bodies paired) ?_
  intro _ _ _ _ _ after _
  exact alignedAt_conclude told after paired

theorem aligned_plus (keep : Keeps pairing.first body) (keep' : Keeps pairing.second body')
    (bodies : pairing.Aligned body body') (told : pairing.Told observer other) (label : String) :
    pairing.Aligned (plus label body observer) (plus label body' other) := by
  intro here there paired
  unfold plus
  refine alignedAt_ask_bind ?_
  refine alignedAt_bind (bodies here there paired) ?_
  intro matched matched' middle middle' same between _
  cases same with
  | missed => exact alignedAt_pure between .missed
  | matched =>
    refine alignedAt_bind (alignedAt_exhaust keep keep' bodies between) ?_
    intro _ _ _ _ _ after _
    exact alignedAt_conclude told after paired

/-- Parts that behave alike in both runs. -/
def parts (pairing : Pairing) (call call' : κ → Matcher) : Demand κ where
  predicate _ := True
  observer observer := pairing.Told observer observer
  callable target := Keeps pairing.first (call target) ∧ Keeps pairing.second (call' target) ∧
    pairing.Aligned (call target) (call' target)
  inert := True

private theorem forall₂_run {call call' : κ → Matcher} {members : List (Pattern κ)}
    (each : ∀ part ∈ members, pairing.Aligned (part.run call) (part.run call')) :
    List.Forall₂ pairing.Aligned (members.map (Pattern.run call))
      (members.map (Pattern.run call')) := by
  rw [List.forall₂_map_left_iff, List.forall₂_map_right_iff, List.forall₂_same]
  exact each

/-- A pattern whose parts behave alike in both runs is aligned with itself. -/
theorem aligned_run {call call' : κ → Matcher} {pattern : Pattern κ}
    (met : pattern.Meets (pairing.parts call call')) :
    pairing.Aligned (pattern.run call) (pattern.run call') := by
  have keep : ∀ part : Pattern κ, part.Meets (pairing.parts call call') →
      Keeps pairing.first (part.run call) :=
    fun part met => keeps_run met fun target own => own.1
  have keep' : ∀ part : Pattern κ, part.Meets (pairing.parts call call') →
      Keeps pairing.second (part.run call') :=
    fun part met => keeps_run met fun target own => own.2.1
  induction met with
  | unit _ told => exact aligned_unit told _
  | literal told => exact aligned_literal told _
  | seq _ told ih =>
    rw [Pattern.run, Pattern.run, Pattern.runEach_eq_map, Pattern.runEach_eq_map]
    exact aligned_seq (forall₂_run ih) told
  | choice _ told ih =>
    rw [Pattern.run, Pattern.run, Pattern.runEach_eq_map, Pattern.runEach_eq_map]
    exact aligned_choice (forall₂_run ih) told
  | star inner told ih => exact aligned_star (keep _ inner) (keep' _ inner) ih told _
  | plus inner told ih => exact aligned_plus (keep _ inner) (keep' _ inner) ih told _
  | @times body observer count inner told ih =>
    rw [Pattern.run, Pattern.run, times_eq_seq, times_eq_seq, ← List.map_replicate,
      ← List.map_replicate]
    refine aligned_seq (forall₂_run ?_) told
    intro part member
    rw [List.eq_of_mem_replicate member]
    exact ih
  | optional _ told ih => exact aligned_optional ih told
  | observed _ told ih =>
    intro here there paired
    exact alignedAt_observed (ih here there paired) told
  | labelled _ ih => exact ih
  | callable called => exact called.2.2
  | inert => exact fun here there paired => alignedAt_raise paired

end Pairing

end SpanLexer
