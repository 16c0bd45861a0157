import SpanLexer.Proofs.Confinement

/-!
Where the cursor is after a miss, whatever the callables do.

A callable may move the cursor and then match nothing, without going back. A sequence, a choice and
an exact count go back themselves, so such a miss does not show. A repetition that has to match once
passes the first miss of its body on as it is, and so do an observer and a label: when all that
stands between the pattern and a callable is of this kind, the callable is exposed, and a miss of
the pattern leaves the cursor where the callable has left it.
-/
namespace SpanLexer

/-- The callable whose miss is a miss of the pattern, with nothing in between that goes back. -/
def Pattern.exposed : Pattern κ → Option κ
  | .plus body _ => body.exposed
  | .observed body _ => body.exposed
  | .labelled _ body => body.exposed
  | .callable _ target => some target
  | _ => none

namespace Rollback
open Scan Matcher Confinement

/-- A miss of a sequence leaves the cursor where it was. -/
theorem seq_miss (missed : (seq parts observer).Returns cursor none stop) :
    stop = cursor.position := by
  obtain ⟨_, _, _, ended⟩ := returns_seq.mp missed
  rcases ended with ⟨_, _, _, back⟩ | ⟨_, _, matched, _⟩
  · exact back
  · cases matched

/-- Each alternative is tried from the same position, and it is there that the last miss ends. -/
theorem firstMatch_miss {alternatives : List Matcher} {cursor : Cursor}
    (missed : (firstMatch start alternatives).Returns (cursor.moveTo start) none stop) :
    stop = start := by
  induction alternatives with
  | nil => exact (returns_firstMatch_nil.mp missed).2
  | cons part others ih =>
    rcases returns_firstMatch_cons.mp missed with ⟨_, _, matched⟩ | ⟨_, _, _, later⟩
    · cases matched
    · exact ih later

theorem choice_miss (missed : (choice alternatives observer).Returns cursor none stop) :
    stop = cursor.position :=
  firstMatch_miss (returns_choice.mp missed).1

/-- Patterns that put the cursor back do so whatever their parts have done. -/
theorem putsBack_miss {call : κ → Matcher} (back : PutsBack pattern observer)
    (missed : (pattern.run call).Returns cursor none stop) : stop = cursor.position := by
  cases back with
  | seq => exact seq_miss missed
  | choice => exact choice_miss missed
  | times =>
    rw [Pattern.run, times_eq_seq] at missed
    exact seq_miss missed

/-- A miss of a repetition that has to match once is the first miss of its body. -/
theorem plus_miss (missed : (plus label body observer).Returns cursor none stop) :
    body.Returns cursor none stop := by
  rcases returns_plus.mp missed with ⟨missed, _⟩ | ⟨_, _, _, _, _, matched⟩
  · exact missed
  · cases matched

/-- After a miss the cursor is where it was, or where an exposed callable has left it. -/
theorem miss_in_place_or_exposed {call : κ → Matcher} {pattern : Pattern κ}
    (missed : (pattern.run call).Returns cursor none stop) :
    stop = cursor.position ∨
      ∃ target, pattern.exposed = some target ∧ (call target).Returns cursor none stop := by
  -- Nothing is asked of the parts; the demand is there for its induction over all patterns.
  have any : (Demand.ofCallables fun _ : κ => True).Free :=
    ⟨fun _ => trivial, fun _ => trivial, fun _ => trivial, trivial⟩
  have met := pattern.meets_of_free any
  induction met with
  | unit =>
    rcases returns_unit.mp missed with ⟨_, _, back⟩ | ⟨_, _, _, ⟨_, _, back⟩ | ⟨_, _, matched, _⟩⟩
    · exact .inl back
    · exact .inl back
    · cases matched
  | literal =>
    rcases returns_literal.mp missed with ⟨_, _, back⟩ | ⟨_, _, matched, _⟩
    · exact .inl back
    · cases matched
  | seq => exact .inl (putsBack_miss .seq missed)
  | choice => exact .inl (putsBack_miss .choice missed)
  | times => exact .inl (putsBack_miss .times missed)
  | star => cases (returns_star.mp missed).2.2
  | plus _ _ ih => exact ih (plus_miss missed)
  | optional =>
    obtain ⟨_, _, _, matched⟩ := returns_optional.mp missed
    cases matched
  | observed _ _ ih => exact ih (returns_observed.mp missed).1
  | labelled _ ih => exact ih missed
  | callable => exact .inr ⟨_, rfl, missed⟩
  | inert => exact (returns_raise.mp missed).elim

/-- Let a pattern miss, over any callables at all. If it is a sequence, a choice or an exact count,
the cursor is where it was. If it is a repetition that has to match once, its body has missed and
has left the cursor where it is now; that is where it was, unless the body exposes a callable that
has left it there. -/
theorem miss_puts_back_unless_exposed (call : κ → Matcher) (pattern : Pattern κ) (cursor : Cursor)
    (stop : Nat) (missed : (pattern.run call).Returns cursor none stop) :
    (∀ observer, PutsBack pattern observer → stop = cursor.position) ∧
    ∀ body observer, pattern = .plus body observer →
      (body.run call).Returns cursor none stop ∧
      (stop = cursor.position ∨
        ∃ target, body.exposed = some target ∧ (call target).Returns cursor none stop) := by
  constructor
  · intro observer back
    exact putsBack_miss back missed
  · rintro body observer rfl
    have inner : (body.run call).Returns cursor none stop := plus_miss missed
    exact ⟨inner, miss_in_place_or_exposed inner⟩

/-- A callable that consumes a unit and then matches nothing. -/
def straying : Callable :=
  .script [.advance 1, .giveUp]

/-- Two letters. -/
def twoLetters : Cursor :=
  ⟨.text ['a', 'b'], 0, 0, 2⟩

/-- A letter and then the callable are put back to the first letter; the repetition of the callable
is left after it. -/
theorem straying_put_back :
    ((Pattern.seq [.character 'a' .silent, .callable "f" straying] .silent).run
      (Library.call [] 1)).Returns twoLetters none twoLetters.position ∧
    ((Pattern.plus (.callable "f" straying) .silent).run (Library.call [] 1)).Returns
      twoLetters none 1 ∧
    (Library.call [] 1 straying).Returns twoLetters none 1 := by
  have row : ((Pattern.seq [.character 'a' .silent, .callable "f" straying] .silent).run
      (Library.call [] 1)).Returns twoLetters none 0 := ⟨rfl, rfl⟩
  have repetition : ((Pattern.plus (.callable "f" straying) .silent).run
      (Library.call [] 1)).Returns twoLetters none 1 := ⟨rfl, rfl⟩
  have back := (miss_puts_back_unless_exposed _ _ _ _ row).1 _ .seq
  have left := (miss_puts_back_unless_exposed _ _ _ _ repetition).2 _ _ rfl
  exact ⟨back ▸ row, repetition, left.1⟩

/-- A repetition that has to match once does not put the cursor back. -/
theorem straying_repetition_not_put_back :
    ¬ ∀ (body : Pattern Callable) (observer : Observer) (cursor : Cursor) (stop : Nat),
      (Library.run [] (.plus body observer)).Returns cursor none stop →
        stop = cursor.position := by
  intro always
  have missed : (Library.run [] (.plus (.callable "f" straying) .silent)).Returns
      twoLetters none 1 := ⟨rfl, rfl⟩
  have back := always _ _ _ _ missed
  cases back

end Rollback

end SpanLexer
