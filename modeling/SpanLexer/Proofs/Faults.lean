import SpanLexer.Proofs.Bounds

/-!
What a run can stop with.

Whatever a pattern is composed of, its run stops only with a fault of one of its predicates,
observers or callables, because it holds something that cannot be run, because the buffer has been
shortened, or because a span is too long to have a length. Every other fault a cursor or a
repetition could raise is out of reach: positions stay in the window, and a repetition goes on only
from further ahead.
-/
namespace SpanLexer.Faults
open Scan Matcher Contract Bounds

variable {base : Cursor} {allowed : Fault → Prop}

/-- From every position ahead of the cursor, the matcher stops only with allowed faults. -/
def StopsWithin (allowed : Fault → Prop) (base : Cursor) (matcher : Matcher) : Prop :=
  ∀ start, base.Ahead start → matcher.FaultsWithin allowed (base.moveTo start)

/-- The faults of the parts of a pattern are allowed ones. -/
def partsWithin (allowed : Fault → Prop) (base : Cursor) (call : κ → Matcher) : Demand κ where
  predicate := Predicate.FaultsWithin allowed
  observer := Observer.FaultsWithin allowed
  callable target := Keeps base (call target) ∧ StopsWithin allowed base (call target)
  inert := ∀ typeName, allowed (.notCallable typeName)

/-- Where only the faults are in question, a pattern may ask and tell what it likes. -/
private theorem any_asked_and_told : AsksAndTells (fun _ => True) base :=
  ⟨fun _ _ _ => trivial, fun _ _ _ => trivial⟩

theorem governs_of_stopsWithin (keep : Keeps base matcher)
    (stops : StopsWithin allowed base matcher) :
    (within allowed (fun _ => True) base).Governs base matcher :=
  (governs_within_iff keep).mpr fun start ahead => ⟨stops start ahead, fun _ _ => trivial⟩

theorem exhaust_stopsWithin (own : OwnFaults allowed base) (keep : Keeps base body)
    (stops : StopsWithin allowed base body) (ahead : base.Ahead start) :
    (exhaust label body).FaultsWithin allowed (base.moveTo start) := by
  have governed := governs_of_stopsWithin keep stops
  exact (admits_exhaust (within_own own any_asked_and_told) keep governed
    (warnsWithin_of_allowed trivial) ahead).stops

/-- A pattern stops only with allowed faults, when its own and those of its parts are allowed. -/
theorem run_stopsWithin {call : κ → Matcher} {pattern : Pattern κ} (own : OwnFaults allowed base)
    (met : pattern.Meets (partsWithin allowed base call)) :
    StopsWithin allowed base (pattern.run call) := by
  have parts : pattern.Meets ((within allowed (fun _ => True) base).parts base call) := by
    refine met.mono ?_ ?_ ?_ ?_
    · exact fun predicate own unit fault refused _ _ => own unit fault refused
    · exact fun observer own id message same _ _ => own id message same
    · exact fun target called => ⟨called.1, governs_of_stopsWithin called.1 called.2⟩
    · exact fun own typeName _ _ => own typeName
  have governed := governs_run (within_own own any_asked_and_told) parts
    fun _ _ => warnsWithin_of_allowed trivial
  exact fun start ahead => (governed start ahead).stops

end SpanLexer.Faults
