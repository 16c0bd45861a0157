import SpanLexer.Proofs.Telling
import SpanLexer.Grammar

/-!
Ordered choice between any alternatives at all.

An alternative may move the cursor and not put it back, match any span, or fault. A choice starts
each of them where it was started itself, so what an alternative does in it is what it does by
itself from there. The first that does not miss decides; those after it are not run.
-/
namespace SpanLexer.Choices
open Scan Matcher

/-- Run by itself from the cursor, the matcher matches nothing, wherever it leaves the cursor. -/
def Misses (matcher : Matcher) (cursor : Cursor) : Prop :=
  (matcher.run cursor).outcome = .ok none

/-- Everything that happens in the runs of the matchers by themselves from the cursor, one run
after the other. -/
def eventsOf (matchers : List Matcher) (cursor : Cursor) : Trace :=
  matchers.flatMap fun matcher => (matcher.run cursor).trace

variable {base : Cursor}

/-- After an alternative that misses the others are tried from the same position. -/
theorem firstMatch_run_miss {matcher : Matcher} {others : List Matcher}
    (low : base.origin ≤ start) (high : start ≤ base.limit)
    (missed : Misses matcher (base.moveTo start)) :
    (firstMatch start (matcher :: others)).run (base.moveTo start) =
      ⟨((firstMatch start others).run (base.moveTo start)).outcome,
        ((firstMatch start others).run (base.moveTo start)).position,
        (matcher.run (base.moveTo start)).trace ++
          ((firstMatch start others).run (base.moveTo start)).trace⟩ := by
  change (matcher >>= _).run (base.moveTo start) = _
  rcases ran : matcher.run (base.moveTo start) with ⟨outcome, left, trace⟩
  rw [Misses, ran] at missed
  obtain rfl : outcome = .ok none := missed
  rw [run_bind_of_ok ran]
  -- From wherever the alternative has left the cursor, it can be put back to the start.
  have again : (seek start >>= fun _ => firstMatch start others).run (base.moveTo left) =
      (firstMatch start others).run (base.moveTo start) := run_seek_bind low high
  simp only [Cursor.moveTo_moveTo, again]

/-- Alternatives that miss only add what happened in them. -/
theorem firstMatch_run_append {before : List Matcher} (others : List Matcher)
    (low : base.origin ≤ start) (high : start ≤ base.limit)
    (missed : ∀ matcher ∈ before, Misses matcher (base.moveTo start)) :
    (firstMatch start (before ++ others)).run (base.moveTo start) =
      ⟨((firstMatch start others).run (base.moveTo start)).outcome,
        ((firstMatch start others).run (base.moveTo start)).position,
        eventsOf before (base.moveTo start) ++
          ((firstMatch start others).run (base.moveTo start)).trace⟩ := by
  induction before with
  | nil => rfl
  | cons matcher before ih =>
    have first := missed matcher List.mem_cons_self
    have later := ih fun other member => missed other (List.mem_cons_of_mem _ member)
    rw [List.cons_append, firstMatch_run_miss low high first, later]
    simp only [eventsOf, List.flatMap_cons, List.append_assoc]

/-- The first alternative that does not miss ends the search with its own run. -/
theorem firstMatch_run_hit {matcher : Matcher} {others : List Matcher}
    (hit : ¬ Misses matcher cursor) :
    (firstMatch start (matcher :: others)).run cursor = matcher.run cursor := by
  change (matcher >>= _).run cursor = _
  rcases ran : matcher.run cursor with ⟨fault | _ | span, stop, trace⟩
  · exact run_bind_of_error ran
  · exact (hit (by rw [Misses, ran])).elim
  · rw [run_bind_of_ok ran]
    simp

/-- When all alternatives miss, the choice misses where it was started and tells nobody. -/
theorem choice_run_miss {alternatives : List Matcher} (valid : cursor.Valid)
    (missed : ∀ matcher ∈ alternatives, Misses matcher cursor) (observer : Observer) :
    (choice alternatives observer).run cursor =
      ⟨.ok none, cursor.position, eventsOf alternatives cursor⟩ := by
  have search : (firstMatch cursor.position alternatives).run cursor =
      ⟨.ok none, cursor.position, eventsOf alternatives cursor⟩ := by
    have none_left := firstMatch_run_append [] valid.1 valid.2 missed
    rw [List.append_nil] at none_left
    exact none_left.trans (congrArg _ (List.append_nil _))
  exact run_observed_miss search observer

/-- The search for the first hit, up to and with the run that is one. -/
theorem firstMatch_run_found {before : List Matcher} (after : List Matcher)
    (valid : cursor.Valid) (missed : ∀ matcher ∈ before, Misses matcher cursor)
    (ran : matcher.run cursor = ⟨outcome, stop, trace⟩) (hit : outcome ≠ .ok none) :
    (firstMatch cursor.position (before ++ matcher :: after)).run cursor =
      ⟨outcome, stop, eventsOf before cursor ++ trace⟩ := by
  have own : ¬ Misses matcher cursor := by
    rw [Misses, ran]
    exact hit
  have found : (firstMatch cursor.position (matcher :: after)).run cursor = _ :=
    (firstMatch_run_hit own).trans ran
  have search := firstMatch_run_append (matcher :: after) valid.1 valid.2 missed
  rw [Cursor.moveTo_self, found] at search
  exact search

/-- Run a choice between any alternatives, over any callables. If each of them by itself, from where
the choice starts, misses, the choice misses there, and only what happens in their runs happens.
Otherwise take the first that does not miss. If it faults, the choice stops with that fault, where
that run stops. If it matches a span, the choice has matched the same span and leaves the cursor at
the same position, and the observer is told that span, once, after everything else; an observer that
then stops the run does so at that position. Before that, what happens is what happens in the runs
of the alternatives up to that one, in order. What stands after it does not matter. -/
theorem first_hit_decides (call : κ → Matcher) (alternatives : List (Pattern κ))
    (observer : Observer) (cursor : Cursor) (valid : cursor.Valid) :
    ((∀ part ∈ alternatives, Misses (part.run call) cursor) →
      ((Pattern.choice alternatives observer).run call).run cursor =
        ⟨.ok none, cursor.position, eventsOf (alternatives.map (Pattern.run call)) cursor⟩) ∧
    ∀ before part after, alternatives = before ++ part :: after →
      (∀ earlier ∈ before, Misses (earlier.run call) cursor) →
      (∀ fault stop trace, (part.run call).run cursor = ⟨.error fault, stop, trace⟩ →
        ((Pattern.choice alternatives observer).run call).run cursor =
          ⟨.error fault, stop, eventsOf (before.map (Pattern.run call)) cursor ++ trace⟩) ∧
      ∀ span stop trace, (part.run call).run cursor = ⟨.ok (some span), stop, trace⟩ →
        (observer.Quiet → ((Pattern.choice alternatives observer).run call).run cursor =
          ⟨.ok (some span), stop, eventsOf (before.map (Pattern.run call)) cursor ++ trace ++
            observer.notes (cursor.moveTo stop) span⟩) ∧
        ∀ id message, observer = .interrupt id message →
          ((Pattern.choice alternatives observer).run call).run cursor =
            ⟨.error (.raised message), stop,
              eventsOf (before.map (Pattern.run call)) cursor ++ trace ++
                observer.notes (cursor.moveTo stop) span⟩ := by
  rw [Pattern.run, Pattern.runEach_eq_map]
  refine ⟨fun missed => choice_run_miss valid (List.forall_mem_map.mpr missed) observer, ?_⟩
  rintro before part after rfl missed
  rw [List.map_append, List.map_cons]
  have missed : ∀ matcher ∈ before.map (Pattern.run call), Misses matcher cursor :=
    List.forall_mem_map.mpr missed
  refine ⟨?_, ?_⟩
  · intro fault stop trace ran
    have hit : (.error fault : Except Fault (Option Span)) ≠ .ok none := by rintro ⟨⟩
    exact run_observed_fault (firstMatch_run_found _ valid missed ran hit) observer
  · intro span stop trace ran
    have hit : (.ok (some span) : Except Fault (Option Span)) ≠ .ok none := by rintro ⟨⟩
    have search := firstMatch_run_found (after.map (Pattern.run call)) valid missed ran hit
    have whole := run_observed_match search observer
    constructor
    · intro quiet
      rw [Observer.reaction_of_quiet quiet] at whole
      exact whole
    · rintro id message rfl
      exact whole

/-- Consumes a unit, leaves a note and matches nothing. -/
def lost : Callable :=
  .script [.advance 1, .note "lost", .giveUp]

/-- Goes to the end and matches a span that runs backwards. -/
def backwards : Callable :=
  .script [.seek 2, .giveSpan 5 1]

/-- Faults. -/
def broken : Callable :=
  .script [.raise "broken"]

/-- Two letters. -/
def letters : Cursor :=
  ⟨.text ['a', 'b'], 0, 0, 2⟩

/-- The choice between the three callables. -/
def strayChoice (observer : Observer) : Pattern Callable :=
  .choice [.callable "lost" lost, .callable "backwards" backwards, .callable "broken" broken]
    observer

/-- The second callable starts where the first one did, its span is handed on as it is, and the
third one is not run. -/
theorem strayChoice_backwards :
    letters.Valid ∧
    ((strayChoice (.record "x")).run (Library.call [] 1)).run letters =
      ⟨.ok (some ⟨5, 1⟩), 2, [.noted "lost" 1, .observed (.log "x") ⟨5, 1⟩ [] 2]⟩ ∧
    ((strayChoice (.interrupt "x" "stop")).run (Library.call [] 1)).run letters =
      ⟨.error (.raised "stop"), 2, [.noted "lost" 1, .observed (.log "x") ⟨5, 1⟩ [] 2]⟩ := by
  have valid : letters.Valid := by decide
  have missed : ∀ earlier ∈ [Pattern.callable "lost" lost],
      Misses (earlier.run (Library.call [] 1)) letters := by
    intro earlier member
    rw [List.mem_singleton.mp member]
    rfl
  have hit (observer : Observer) := (first_hit_decides (Library.call [] 1) _ observer letters
    valid).2 _ (.callable "backwards" backwards) [.callable "broken" broken] rfl missed
  exact ⟨valid, ((hit _).2 ⟨5, 1⟩ 2 [] rfl).1 trivial, ((hit _).2 ⟨5, 1⟩ 2 [] rfl).2 _ _ rfl⟩

/-- What the first hit gives is not what the choice gives, when the observer stops the run. -/
theorem first_hit_not_kept :
    ¬ ∀ (alternatives : List (Pattern Callable)) (observer : Observer) (cursor : Cursor)
        (before after : List (Pattern Callable)) (part : Pattern Callable),
      cursor.Valid → alternatives = before ++ part :: after →
      (∀ earlier ∈ before, Misses (Library.run [] earlier) cursor) →
      ¬ Misses (Library.run [] part) cursor →
        ((Library.run [] (.choice alternatives observer)).run cursor).outcome =
          ((Library.run [] part).run cursor).outcome := by
  intro kept
  have same := kept [.ofClass .letter .silent] (.interrupt "x" "stop") letters [] []
    (.ofClass .letter .silent) (by decide) rfl nofun nofun
  cases same

end SpanLexer.Choices
