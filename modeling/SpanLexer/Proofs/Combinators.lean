import SpanLexer.Proofs.Runs

/-!
What each combinator returns, in terms of what the matchers it combines return.

An exact count is a sequence of copies, and a choice is an observed first match, so neither needs
rules of its own.
-/
namespace SpanLexer.Matcher

open Scan

@[simp] theorem returns_conclude :
    (conclude start observer).Returns cursor result stop ↔
      observer.Quiet ∧ result = some ⟨start, cursor.position⟩ ∧ stop = cursor.position := by
  simp only [conclude, returns_bind, returns_spanFrom, returns_notify, returns_pure]
  constructor
  · rintro ⟨_, _, ⟨rfl, rfl⟩, _, _, ⟨quiet, rfl⟩, rfl, rfl⟩
    exact ⟨quiet, rfl, rfl⟩
  · rintro ⟨quiet, rfl, rfl⟩
    exact ⟨_, _, ⟨rfl, rfl⟩, (), _, ⟨quiet, rfl⟩, rfl, rfl⟩

theorem returns_ask_predicate {predicate : Predicate} :
    predicate.ask.Returns cursor answer stop ↔
      ∃ unit, cursor.unitAt 0 = .ok unit ∧ predicate.test unit = .ok answer ∧
        stop = cursor.position := by
  simp only [Predicate.ask, returns_bind, returns_unitAt, returns_position, returns_emit,
    returns_lift]
  constructor
  · rintro ⟨unit, _, ⟨found, rfl⟩, _, _, ⟨rfl, rfl⟩, _, _, rfl, tested, rfl⟩
    exact ⟨unit, found, tested, rfl⟩
  · rintro ⟨unit, found, tested, rfl⟩
    exact ⟨unit, _, ⟨found, rfl⟩, _, _, ⟨rfl, rfl⟩, (), _, rfl, tested, rfl⟩

/-- One unit is matched when there is one and the predicate accepts it. -/
theorem returns_unit :
    (unit predicate observer).Returns cursor result stop ↔
      (cursor.remaining = 0 ∧ result = none ∧ stop = cursor.position) ∨
      ∃ next, cursor.remaining ≠ 0 ∧ cursor.unitAt 0 = .ok next ∧
        ((predicate.test next = .ok false ∧ result = none ∧ stop = cursor.position) ∨
        (predicate.test next = .ok true ∧ observer.Quiet ∧
          result = some ⟨cursor.position, cursor.position + 1⟩ ∧ stop = cursor.position + 1)) := by
  simp only [unit, returns_bind, returns_remaining]
  constructor
  · rintro ⟨_, _, ⟨rfl, rfl⟩, ran⟩
    split at ran
    · rename_i none_left
      obtain ⟨rfl, rfl⟩ := returns_pure.mp ran
      exact .inl ⟨none_left, rfl, rfl⟩
    · rename_i some_left
      obtain ⟨answer, _, asked, ran⟩ := returns_bind.mp ran
      obtain ⟨next, found, tested, rfl⟩ := returns_ask_predicate.mp asked
      refine .inr ⟨next, some_left, found, ?_⟩
      cases answer with
      | false =>
        obtain ⟨rfl, rfl⟩ := returns_pure.mp ran
        exact .inl ⟨tested, rfl, rfl⟩
      | true =>
        simp only [↓reduceIte, returns_bind, returns_position, returns_advance,
          returns_conclude] at ran
        obtain ⟨_, _, ⟨rfl, rfl⟩, _, _, ⟨_, rfl⟩, quiet, rfl, rfl⟩ := ran
        exact .inr ⟨tested, quiet, rfl, rfl⟩
  · intro described
    refine ⟨_, _, ⟨rfl, rfl⟩, ?_⟩
    rcases described with ⟨none_left, rfl, rfl⟩ | ⟨next, some_left, found, later⟩
    · rw [if_pos none_left]
      exact returns_pure.mpr ⟨rfl, rfl⟩
    · rw [if_neg some_left]
      refine returns_bind.mpr ?_
      rcases later with ⟨tested, rfl, rfl⟩ | ⟨tested, quiet, rfl, rfl⟩
      · exact ⟨false, _, returns_ask_predicate.mpr ⟨next, found, tested, rfl⟩,
          returns_pure.mpr ⟨rfl, rfl⟩⟩
      · refine ⟨true, _, returns_ask_predicate.mpr ⟨next, found, tested, rfl⟩, ?_⟩
        simp only [↓reduceIte, returns_bind, returns_position, returns_advance, returns_conclude]
        have room : (0 : Int) ≤ 1 ∧ (1 : Int) ≤ cursor.remaining := ⟨by omega, by omega⟩
        exact ⟨_, _, ⟨rfl, rfl⟩, (), _, ⟨room, rfl⟩, quiet, rfl, rfl⟩

/-- A literal is matched when the remaining units start with it. -/
theorem returns_literal :
    (literal text observer).Returns cursor result stop ↔
      (cursor.startsWith text = false ∧ result = none ∧ stop = cursor.position) ∨
      (cursor.startsWith text = true ∧ observer.Quiet ∧
        result = some ⟨cursor.position, cursor.position + text.length⟩ ∧
        stop = cursor.position + text.length) := by
  simp only [literal, returns_bind, returns_startsWith]
  constructor
  · rintro ⟨_, _, ⟨rfl, rfl⟩, ran⟩
    split at ran
    · rename_i stands
      simp only [returns_bind, returns_position, returns_advance, returns_conclude] at ran
      obtain ⟨_, _, ⟨rfl, rfl⟩, _, _, ⟨_, rfl⟩, quiet, rfl, rfl⟩ := ran
      exact .inr ⟨stands, quiet, rfl, rfl⟩
    · rename_i differs
      obtain ⟨rfl, rfl⟩ := returns_pure.mp ran
      exact .inl ⟨Bool.eq_false_iff.mpr differs, rfl, rfl⟩
  · intro described
    refine ⟨_, _, ⟨rfl, rfl⟩, ?_⟩
    rcases described with ⟨differs, rfl, rfl⟩ | ⟨stands, quiet, rfl, rfl⟩
    · rw [differs]
      exact returns_pure.mpr ⟨rfl, rfl⟩
    · rw [if_pos stands]
      simp only [returns_bind, returns_position, returns_advance, returns_conclude]
      have short := Cursor.length_le_of_startsWith stands
      have room : (0 : Int) ≤ text.length ∧ (text.length : Int) ≤ cursor.remaining :=
        ⟨by omega, by omega⟩
      exact ⟨_, _, ⟨rfl, rfl⟩, (), _, ⟨room, rfl⟩, quiet, rfl, rfl⟩

theorem returns_allMatch_nil :
    (allMatch []).Returns cursor all stop ↔ all = true ∧ stop = cursor.position :=
  returns_pure

/-- The first matcher that matches nothing ends the row. -/
theorem returns_allMatch_cons :
    (allMatch (matcher :: others)).Returns cursor all stop ↔
      (matcher.Returns cursor none stop ∧ all = false) ∨
      ∃ span middle, matcher.Returns cursor (some span) middle ∧
        (allMatch others).Returns (cursor.moveTo middle) all stop := by
  simp only [allMatch, returns_bind]
  constructor
  · rintro ⟨matched, middle, ran, later⟩
    cases matched with
    | none =>
      obtain ⟨rfl, rfl⟩ := returns_pure.mp later
      exact .inl ⟨ran, rfl⟩
    | some span => exact .inr ⟨span, middle, ran, later⟩
  · rintro (⟨ran, rfl⟩ | ⟨span, middle, ran, later⟩)
    · exact ⟨none, stop, ran, returns_pure.mpr ⟨rfl, rfl⟩⟩
    · exact ⟨some span, middle, ran, later⟩

/-- A row goes on where its first part ends. -/
theorem allMatch_append (matchers others : List Matcher) :
    allMatch (matchers ++ others) =
      allMatch matchers >>= fun all => if all then allMatch others else pure false := by
  induction matchers with
  | nil => rfl
  | cons matcher rest ih =>
    rw [List.cons_append, allMatch, allMatch, bind_assoc]
    congr 1
    funext matched
    cases matched with
    | none => rfl
    | some span => exact ih

/-- A sequence is matched when all its parts are; otherwise the cursor is put back. -/
theorem returns_seq :
    (seq parts observer).Returns cursor result stop ↔
      ∃ all middle, (allMatch parts).Returns cursor all middle ∧
        ((all = false ∧ cursor.Valid ∧ result = none ∧ stop = cursor.position) ∨
        (all = true ∧ observer.Quiet ∧ result = some ⟨cursor.position, middle⟩ ∧
          stop = middle)) := by
  simp only [seq, returns_bind, returns_position]
  constructor
  · rintro ⟨_, _, ⟨rfl, rfl⟩, all, middle, ran, later⟩
    refine ⟨all, middle, ran, ?_⟩
    cases all with
    | false =>
      simp only [Bool.false_eq_true, ↓reduceIte, returns_bind, returns_seek, returns_pure] at later
      obtain ⟨_, _, ⟨window, rfl⟩, rfl, rfl⟩ := later
      exact .inl ⟨rfl, ⟨Int.ofNat_le.mp window.1, Int.ofNat_le.mp window.2⟩, rfl, rfl⟩
    | true =>
      obtain ⟨quiet, rfl, rfl⟩ := returns_conclude.mp later
      exact .inr ⟨rfl, quiet, rfl, rfl⟩
  · rintro ⟨all, middle, ran, ⟨rfl, valid, rfl, rfl⟩ | ⟨rfl, quiet, rfl, rfl⟩⟩
    · refine ⟨_, _, ⟨rfl, rfl⟩, false, middle, ran, ?_⟩
      have window := And.intro (Int.ofNat_le.mpr valid.1) (Int.ofNat_le.mpr valid.2)
      exact returns_bind.mpr
        ⟨(), _, returns_seek.mpr ⟨window, rfl⟩, returns_pure.mpr ⟨rfl, rfl⟩⟩
    · exact ⟨_, _, ⟨rfl, rfl⟩, true, stop, ran, returns_conclude.mpr ⟨quiet, rfl, rfl⟩⟩

theorem allTimes_eq_allMatch (body : Matcher) (count : Nat) :
    allTimes body count = allMatch (List.replicate count body) := by
  induction count with
  | zero => rfl
  | succ count ih => simp only [allTimes, List.replicate_succ, allMatch, ih]

/-- An exact count is a sequence of copies. -/
theorem times_eq_seq (body : Matcher) (count : Nat) (observer : Observer) :
    times body count observer = seq (List.replicate count body) observer := by
  simp only [times, seq, allTimes_eq_allMatch]

theorem returns_firstMatch_nil :
    (firstMatch start []).Returns cursor result stop ↔
      result = none ∧ stop = cursor.position :=
  returns_pure

/-- The first alternative that matches is taken; after any other the cursor is put back. -/
theorem returns_firstMatch_cons :
    (firstMatch start (matcher :: others)).Returns cursor result stop ↔
      (∃ span, matcher.Returns cursor (some span) stop ∧ result = some span) ∨
      ∃ middle, matcher.Returns cursor none middle ∧
        (cursor.origin ≤ start ∧ start ≤ cursor.limit) ∧
        (firstMatch start others).Returns (cursor.moveTo start) result stop := by
  simp only [firstMatch, returns_bind]
  constructor
  · rintro ⟨matched, middle, ran, later⟩
    cases matched with
    | some span =>
      obtain ⟨rfl, rfl⟩ := returns_pure.mp later
      exact .inl ⟨span, ran, rfl⟩
    | none =>
      simp only [returns_bind, returns_seek] at later
      obtain ⟨_, _, ⟨window, rfl⟩, later⟩ := later
      exact .inr ⟨middle, ran, ⟨Int.ofNat_le.mp window.1, Int.ofNat_le.mp window.2⟩, later⟩
  · rintro (⟨span, ran, rfl⟩ | ⟨middle, ran, window, later⟩)
    · exact ⟨some span, stop, ran, returns_pure.mpr ⟨rfl, rfl⟩⟩
    · have target := And.intro (Int.ofNat_le.mpr window.1) (Int.ofNat_le.mpr window.2)
      exact ⟨none, middle, ran,
        returns_bind.mpr ⟨(), start, returns_seek.mpr ⟨target, rfl⟩, later⟩⟩

/-- Further alternatives are tried where the first ones have all missed. -/
theorem firstMatch_append (start : Nat) (matchers others : List Matcher) :
    firstMatch start (matchers ++ others) = firstMatch start matchers >>= fun
      | some span => pure (some span)
      | none => firstMatch start others := by
  induction matchers with
  | nil => rfl
  | cons matcher rest ih =>
    rw [List.cons_append, firstMatch, firstMatch, bind_assoc]
    congr 1
    funext matched
    cases matched with
    | some span => rfl
    | none => rw [bind_assoc, ih]

/-- An observer changes nothing of a match, unless it stops the run. -/
theorem returns_observed :
    (observed matcher observer).Returns cursor result stop ↔
      matcher.Returns cursor result stop ∧ (result.isSome = true → observer.Quiet) := by
  simp only [observed, returns_bind]
  constructor
  · rintro ⟨matched, middle, ran, later⟩
    cases matched with
    | none =>
      obtain ⟨rfl, rfl⟩ := returns_pure.mp later
      exact ⟨ran, by simp⟩
    | some span =>
      simp only [returns_bind, returns_notify, returns_pure] at later
      obtain ⟨_, _, ⟨quiet, rfl⟩, rfl, rfl⟩ := later
      exact ⟨ran, fun _ => quiet⟩
  · rintro ⟨ran, quiet⟩
    refine ⟨result, stop, ran, ?_⟩
    cases result with
    | none => exact returns_pure.mpr ⟨rfl, rfl⟩
    | some span =>
      exact returns_bind.mpr
        ⟨(), stop, returns_notify.mpr ⟨quiet rfl, rfl⟩, returns_pure.mpr ⟨rfl, rfl⟩⟩

/-- An observer that ignores what it is told may be left out. -/
theorem observed_silent (matcher : Matcher) : observed matcher .silent = matcher := by
  have same : observed matcher .silent = matcher >>= pure := by
    rw [observed]
    congr 1
    funext matched
    cases matched <;> simp [notify]
  rw [same, bind_pure]

/-- A choice is the first match among its alternatives, observed. -/
theorem choice_eq_observed (alternatives : List Matcher) (observer : Observer) :
    choice alternatives observer =
      position >>= fun start => observed (firstMatch start alternatives) observer := rfl

theorem returns_choice :
    (choice alternatives observer).Returns cursor result stop ↔
      (firstMatch cursor.position alternatives).Returns cursor result stop ∧
        (result.isSome = true → observer.Quiet) := by
  rw [choice_eq_observed, returns_bind]
  constructor
  · rintro ⟨_, _, started, ran⟩
    obtain ⟨rfl, rfl⟩ := returns_position.mp started
    exact returns_observed.mp ran
  · intro ran
    exact ⟨_, _, returns_position.mpr ⟨rfl, rfl⟩, returns_observed.mpr ran⟩

theorem returns_rounds_zero :
    (rounds label body 0).Returns cursor value stop ↔
      cursor.remaining = 0 ∧ stop = cursor.position := by
  simp only [rounds, returns_bind, returns_remaining]
  constructor
  · rintro ⟨_, _, ⟨rfl, rfl⟩, ran⟩
    split at ran
    · rename_i none_left
      exact ⟨none_left, (returns_pure.mp ran).2⟩
    · exact (returns_raise.mp ran).elim
  · rintro ⟨none_left, rfl⟩
    refine ⟨_, _, ⟨rfl, rfl⟩, ?_⟩
    rw [if_pos none_left]
    exact returns_pure.mpr ⟨rfl, rfl⟩

/-- One round of a repetition, and whether another is to follow. -/
def round (label : String) (body : Matcher) : Scan Bool := do
  if (← remaining) = 0 then
    return false
  else
    match ← body with
    | none => return false
    | some span =>
      if (← lift span.length?) = 0 then
        emit (.emptyRound label)
        return false
      else
        return true

theorem rounds_succ (label : String) (body : Matcher) (bound : Nat) :
    rounds label body (bound + 1) =
      round label body >>= fun more => if more then rounds label body bound else pure () := by
  rw [rounds, round, bind_assoc]
  congr 1
  funext left
  split
  · rfl
  · rw [bind_assoc]
    congr 1
    funext matched
    cases matched with
    | none => rfl
    | some span =>
      simp only [bind_assoc]
      congr 1
      funext length
      split
      · simp only [bind_assoc, pure_bind, Bool.false_eq_true, ↓reduceIte, bind_pure_unit]
      · rfl

/-- Another round follows one that matched something. -/
theorem returns_round_true :
    (round label body).Returns cursor true stop ↔
      cursor.remaining ≠ 0 ∧ ∃ span length, body.Returns cursor (some span) stop ∧
        span.length? = .ok length ∧ length ≠ 0 := by
  simp only [round, returns_bind, returns_remaining]
  constructor
  · rintro ⟨_, _, ⟨rfl, rfl⟩, ran⟩
    split at ran
    · cases (returns_pure.mp ran).1
    · rename_i left
      obtain ⟨matched, middle, first, later⟩ := returns_bind.mp ran
      cases matched with
      | none => cases (returns_pure.mp later).1
      | some span =>
        obtain ⟨length, _, lifted, later⟩ := returns_bind.mp later
        obtain ⟨measured, rfl⟩ := returns_lift.mp lifted
        split at later
        · obtain ⟨_, _, _, later⟩ := returns_bind.mp later
          cases (returns_pure.mp later).1
        · rename_i full
          obtain ⟨_, rfl⟩ := returns_pure.mp later
          exact ⟨left, span, length, first, measured, full⟩
  · rintro ⟨left, span, length, ran, measured, full⟩
    refine ⟨_, _, ⟨rfl, rfl⟩, ?_⟩
    rw [if_neg left]
    refine returns_bind.mpr ⟨some span, stop, ran, returns_bind.mpr ⟨length, stop, ?_, ?_⟩⟩
    · exact returns_lift.mpr ⟨measured, rfl⟩
    · rw [if_neg full]
      exact returns_pure.mpr ⟨rfl, rfl⟩

/-- The last round finds nothing left, matches nothing, or matches the empty span. -/
theorem returns_round_false :
    (round label body).Returns cursor false stop ↔
      (cursor.remaining = 0 ∧ stop = cursor.position) ∨
      (cursor.remaining ≠ 0 ∧ (body.Returns cursor none stop ∨
        ∃ span, body.Returns cursor (some span) stop ∧ span.length? = .ok 0)) := by
  simp only [round, returns_bind, returns_remaining]
  constructor
  · rintro ⟨_, _, ⟨rfl, rfl⟩, ran⟩
    split at ran
    · rename_i none_left
      exact .inl ⟨none_left, (returns_pure.mp ran).2⟩
    · rename_i left
      refine .inr ⟨left, ?_⟩
      obtain ⟨matched, middle, first, later⟩ := returns_bind.mp ran
      cases matched with
      | none =>
        obtain ⟨_, rfl⟩ := returns_pure.mp later
        exact .inl first
      | some span =>
        obtain ⟨length, _, lifted, later⟩ := returns_bind.mp later
        obtain ⟨measured, rfl⟩ := returns_lift.mp lifted
        split at later
        · rename_i empty
          obtain ⟨_, _, warned, later⟩ := returns_bind.mp later
          obtain ⟨_, rfl⟩ := returns_pure.mp later
          cases returns_emit.mp warned
          exact .inr ⟨span, first, empty ▸ measured⟩
        · cases (returns_pure.mp later).1
  · intro described
    refine ⟨_, _, ⟨rfl, rfl⟩, ?_⟩
    rcases described with ⟨none_left, rfl⟩ | ⟨left, described⟩
    · rw [if_pos none_left]
      exact returns_pure.mpr ⟨rfl, rfl⟩
    · rw [if_neg left]
      refine returns_bind.mpr ?_
      rcases described with ran | ⟨span, ran, measured⟩
      · exact ⟨none, stop, ran, returns_pure.mpr ⟨rfl, rfl⟩⟩
      · refine ⟨some span, stop, ran, returns_bind.mpr ⟨0, stop, ?_, ?_⟩⟩
        · exact returns_lift.mpr ⟨measured, rfl⟩
        · exact returns_bind.mpr
            ⟨(), stop, returns_emit.mpr rfl, returns_pure.mpr ⟨rfl, rfl⟩⟩

theorem returns_rounds_succ :
    (rounds label body (bound + 1)).Returns cursor value stop ↔
      (round label body).Returns cursor false stop ∨
      ∃ middle, (round label body).Returns cursor true middle ∧
        (rounds label body bound).Returns (cursor.moveTo middle) value stop := by
  rw [rounds_succ, returns_bind]
  constructor
  · rintro ⟨more, middle, ran, later⟩
    cases more with
    | false =>
      obtain ⟨_, rfl⟩ := returns_pure.mp later
      exact .inl ran
    | true => exact .inr ⟨middle, ran, later⟩
  · rintro (ran | ⟨middle, ran, later⟩)
    · exact ⟨false, stop, ran, returns_pure.mpr ⟨rfl, rfl⟩⟩
    · exact ⟨true, middle, ran, later⟩

theorem returns_exhaust :
    (exhaust label body).Returns cursor value stop ↔
      (rounds label body (cursor.limit - cursor.origin)).Returns cursor value stop := by
  rw [exhaust, returns_bind]
  constructor
  · rintro ⟨_, _, measured, ran⟩
    obtain ⟨rfl, rfl⟩ := returns_extent.mp measured
    exact ran
  · intro ran
    exact ⟨_, _, returns_extent.mpr ⟨rfl, rfl⟩, ran⟩

/-- A repetition ends where its rounds end. -/
theorem returns_star :
    (star label body observer).Returns cursor result stop ↔
      (exhaust label body).Returns cursor () stop ∧ observer.Quiet ∧
        result = some ⟨cursor.position, stop⟩ := by
  simp only [star, returns_bind, returns_position, returns_conclude]
  constructor
  · rintro ⟨_, _, ⟨rfl, rfl⟩, _, _, ran, quiet, rfl, rfl⟩
    exact ⟨ran, quiet, rfl⟩
  · rintro ⟨ran, quiet, rfl⟩
    exact ⟨_, _, ⟨rfl, rfl⟩, (), stop, ran, quiet, rfl, rfl⟩

/-- One match and then the rounds. Where the first match fails is where the cursor stays. -/
theorem returns_plus :
    (plus label body observer).Returns cursor result stop ↔
      (body.Returns cursor none stop ∧ result = none) ∨
      ∃ span middle, body.Returns cursor (some span) middle ∧
        (exhaust label body).Returns (cursor.moveTo middle) () stop ∧ observer.Quiet ∧
        result = some ⟨cursor.position, stop⟩ := by
  simp only [plus, returns_bind, returns_position]
  constructor
  · rintro ⟨_, _, ⟨rfl, rfl⟩, matched, middle, ran, later⟩
    cases matched with
    | none =>
      obtain ⟨rfl, rfl⟩ := returns_pure.mp later
      exact .inl ⟨ran, rfl⟩
    | some span =>
      simp only [returns_bind, returns_conclude] at later
      obtain ⟨_, _, rounds, quiet, rfl, rfl⟩ := later
      exact .inr ⟨span, middle, ran, rounds, quiet, rfl⟩
  · rintro (⟨ran, rfl⟩ | ⟨span, middle, ran, rounds, quiet, rfl⟩)
    · exact ⟨_, _, ⟨rfl, rfl⟩, none, stop, ran, returns_pure.mpr ⟨rfl, rfl⟩⟩
    · exact ⟨_, _, ⟨rfl, rfl⟩, some span, middle, ran,
        returns_bind.mpr ⟨(), stop, rounds, returns_conclude.mpr ⟨quiet, rfl, rfl⟩⟩⟩

/-- What the body matches, or the empty span where the body leaves the cursor. -/
theorem returns_optional :
    (optional body observer).Returns cursor result stop ↔
      observer.Quiet ∧ ∃ matched, body.Returns cursor matched stop ∧
        result = some (matched.getD ⟨stop, stop⟩) := by
  simp only [optional, returns_bind]
  constructor
  · rintro ⟨matched, middle, ran, later⟩
    cases matched with
    | some span =>
      simp only [returns_bind, returns_notify, returns_pure] at later
      obtain ⟨_, _, ⟨quiet, rfl⟩, rfl, rfl⟩ := later
      exact ⟨quiet, some span, ran, rfl⟩
    | none =>
      simp only [returns_bind, returns_position, returns_conclude] at later
      obtain ⟨_, _, ⟨rfl, rfl⟩, quiet, rfl, rfl⟩ := later
      exact ⟨quiet, none, ran, rfl⟩
  · rintro ⟨quiet, matched, ran, rfl⟩
    refine ⟨matched, stop, ran, ?_⟩
    cases matched with
    | some span =>
      exact returns_bind.mpr
        ⟨(), stop, returns_notify.mpr ⟨quiet, rfl⟩, returns_pure.mpr ⟨rfl, rfl⟩⟩
    | none =>
      exact returns_bind.mpr
        ⟨stop, stop, returns_position.mpr ⟨rfl, rfl⟩, returns_conclude.mpr ⟨quiet, rfl, rfl⟩⟩

end SpanLexer.Matcher
