import SpanLexer.Proofs.Faults
import SpanLexer.Proofs.Subruns

/-!
Runs that never fault.

A unit can be asked for behind the window, more can be consumed than remains, a move can lead out
of the window and a length can be negative or too large, and each of these stops a run. None of
them comes up while the window lies in a buffer that is not too long: every part, at any depth, is
started where all that a pattern asks of a cursor is granted. A pattern whose parts do not fault
therefore always returns, and a missing match is a result like any other.
-/
namespace SpanLexer.Safety
open Scan Matcher Contract Faults Subruns

variable {base : Cursor}

/-- Parts that do not fault by themselves: predicates answer, observers let the run go on, and
callables keep the contract and return. -/
def harmless (base : Cursor) (call : κ → Matcher) : Demand κ where
  predicate predicate := ∀ unit, ∃ answer, predicate.test unit = .ok answer
  observer := Observer.Quiet
  callable target := Keeps base (call target) ∧
    ∀ start, base.Ahead start →
      ∃ result stop, (call target).Returns (base.moveTo start) result stop
  inert := False

/-- Everything a pattern asks of a cursor where it starts is granted. -/
structure Secure (cursor : Cursor) : Prop where
  /-- The position is in the window and the window in the buffer. -/
  inside : cursor.Inside
  /-- What remains has a length. -/
  measured : (⟨cursor.position, cursor.limit⟩ : Span).length? = .ok cursor.remaining
  /-- While units remain, the next one is there and can be consumed. -/
  next : cursor.remaining ≠ 0 → ∃ unit, cursor.unitAt 0 = .ok unit ∧
    cursor.advance 1 = .ok (cursor.moveTo (cursor.position + 1))
  /-- A literal that stands here can be consumed. -/
  literal : ∀ text, cursor.startsWith text = true →
    cursor.advance text.length = .ok (cursor.moveTo (cursor.position + text.length))
  /-- From wherever the cursor has come, it can be put back. -/
  back : ∀ other, (cursor.moveTo other).seek cursor.position = .ok cursor

/-- A span that does not run backwards and lies in a buffer that is not too long has a length. -/
theorem length?_short {size start stop : Nat} (short : (size : Int) ≤ Span.maxLength)
    (forward : start ≤ stop) (bound : stop ≤ size) :
    (⟨(start : Nat), (stop : Nat)⟩ : Span).length? = .ok (stop - start) := by
  rw [length?_forward forward, if_neg (by omega)]

theorem secure_of_inside {cursor : Cursor} (inside : cursor.Inside)
    (short : (cursor.buffer.size : Int) ≤ Span.maxLength) : Secure cursor where
  inside := inside
  measured := length?_short short inside.1.2 inside.2
  next left := by
    cases ended : cursor.rest with
    | nil => exact absurd ((Cursor.remaining_eq_zero_iff inside).mpr ended) left
    | cons unit others =>
      exact ⟨unit, Cursor.unitAt_zero inside ended,
        Cursor.advance_within (Nat.one_le_iff_ne_zero.mpr left)⟩
  literal text stands := Cursor.advance_within (Cursor.length_le_of_startsWith stands)
  back other := Cursor.seek_within inside.1.1 inside.1.2

/-- Where nothing is allowed to fault, no part faults. -/
private theorem harmless_within {pattern : Pattern κ} (met : pattern.Meets (harmless base call)) :
    pattern.Meets (partsWithin (fun _ => False) base call) := by
  refine met.mono ?_ ?_ ?_ ?_
  · exact fun _ answers => Predicate.faultsWithin_of_answers answers _
  · exact fun _ quiet => Observer.faultsWithin_of_quiet quiet fun _ => False
  · rintro target ⟨keep, returns⟩
    refine ⟨keep, fun start ahead fault stopped => ?_⟩
    obtain ⟨result, stop, returned, _⟩ := returns start ahead
    rw [returned] at stopped
    cases stopped
  · exact False.elim

/-- No more remains than the buffer holds. -/
theorem remaining_short (inside : base.Inside) (short : (base.buffer.size : Int) ≤ Span.maxLength) :
    (base.remaining : Int) ≤ Span.maxLength := by
  have bound := inside.2
  simp only [Cursor.remaining]
  omega

theorem returns_of_harmless {call : κ → Matcher} {pattern : Pattern κ} (inside : base.Inside)
    (short : (base.buffer.size : Int) ≤ Span.maxLength)
    (met : pattern.Meets (harmless base call)) (ahead : base.Ahead start) :
    ∃ result stop, (pattern.run call).Returns (base.moveTo start) result stop := by
  have left := remaining_short inside short
  have stops := run_stopsWithin ⟨inside.1, .inr inside, .inr left⟩ (harmless_within met)
  refine (returns_or_faults (pattern.run call) (base.moveTo start)).resolve_right ?_
  rintro ⟨fault, stopped⟩
  exact stops start ahead fault stopped

/-- A pattern whose parts do not fault always returns, from any window of any buffer that is not
too long. So does everything that is started within its run: all that it asks of the cursor, where
it starts and where it stops, is granted, and the span it gives has a length. -/
theorem run_never_faults (call : κ → Matcher) (pattern : Pattern κ) (cursor : Cursor)
    (inside : cursor.Inside) (short : (cursor.buffer.size : Int) ≤ Span.maxLength)
    (met : pattern.Meets (harmless cursor call)) :
    (∃ result stop, (pattern.run call).Returns cursor result stop) ∧
    ∀ part here, Starts call cursor pattern cursor.position part here →
      Secure (cursor.moveTo here) ∧
      ∃ result stop, (part.run call).Returns (cursor.moveTo here) result stop ∧
        Secure (cursor.moveTo stop) ∧
        ∀ span, result = some span → span.length? = .ok (stop - here) := by
  have start := Cursor.ahead_self inside.1
  have leaves : ∀ target, (harmless cursor call).callable target → Keeps cursor (call target) :=
    fun target own => own.1
  have secure : ∀ position, cursor.Ahead position → Secure (cursor.moveTo position) :=
    fun position ahead => secure_of_inside (Cursor.inside_moveTo inside ahead) short
  refine ⟨returns_of_harmless inside short met start, ?_⟩
  intro part here starts
  obtain ⟨ahead, own⟩ := starts_ahead met leaves start starts
  obtain ⟨result, stop, ran⟩ := returns_of_harmless inside short own ahead
  refine ⟨secure here ahead, result, stop, ran, ?_⟩
  have kept := keeps_run own leaves here result stop ahead ran
  cases result with
  | none =>
    cases kept
    exact ⟨secure _ ahead, nofun⟩
  | some span =>
    obtain ⟨rfl, forward⟩ := kept
    have stopAhead := ahead_trans ahead forward
    refine ⟨secure stop stopAhead, ?_⟩
    rintro _ ⟨⟩
    exact length?_short short forward.1 (Nat.le_trans stopAhead.2 inside.2)

/-- Units up to a mark, each of which may be missing, and then the mark with what follows it. -/
def upToMark : Pattern Empty :=
  .seq [.star (.optional (.noneOf [';'] .silent) .silent) .silent, .literal [';', 'c'] .silent]
    .silent

/-- Octets with a window that ends between the mark and what follows it. -/
def markedOctets : Cursor :=
  ⟨.octets .view [120, 97, 98, 59, 99], 1, 1, 4⟩

/-- The literal is started at the mark, where too few units remain for it, and its miss is no
fault. -/
theorem upToMark_misses :
    markedOctets.Inside ∧ (markedOctets.buffer.size : Int) ≤ Span.maxLength ∧
    upToMark.Meets (harmless markedOctets Empty.elim) ∧
    (upToMark.run Empty.elim).Returns markedOctets none 1 ∧
    Starts Empty.elim markedOctets upToMark 1 (.literal [';', 'c'] .silent) 3 ∧
    Secure (markedOctets.moveTo 3) := by
  have inside : markedOctets.Inside := by decide
  have short : (markedOctets.buffer.size : Int) ≤ Span.maxLength := by decide
  have met : upToMark.Meets (harmless markedOctets Empty.elim) := by
    refine .seq ?_ trivial
    intro part member
    simp only [List.mem_cons, List.not_mem_nil, or_false] at member
    rcases member with rfl | rfl
    · exact .star (.optional (.unit (fun unit => ⟨_, rfl⟩) trivial) trivial) trivial
    · exact .literal trivial
  have starts : Starts Empty.elim markedOctets upToMark 1 (.literal [';', 'c'] .silent) 3 :=
    .within .itself (.seq [.star (.optional (.noneOf [';'] .silent) .silent) .silent] [] ⟨rfl, rfl⟩)
  exact ⟨inside, short, met, ⟨rfl, rfl⟩, starts,
    ((run_never_faults _ _ _ inside short met).2 _ 3 starts).1⟩

end SpanLexer.Safety
