import SpanLexer.Proofs.Faults
import SpanLexer.Proofs.Traces

/-!
How short a match can be.

The least length of a pattern is read off its syntax, and no match is shorter. So a pattern whose
repetitions all have a body of least length one or more cannot warn: only an empty match of such a
body would, and there is none, neither in the runs that matter in the end nor in the branches that
are given up, and also not when a fault ends the run.
-/
namespace SpanLexer

namespace Pattern

mutual

/-- The least number of units a pattern can match. A callable may match none. -/
def minLength : Pattern κ → Nat
  | .unit _ _ _ => 1
  | .literal text _ => text.length
  | .seq parts _ => minLengthInTurn parts
  | .choice alternatives _ => (minLengths alternatives).min?.getD 0
  | .star _ _ => 0
  | .plus body _ => body.minLength
  | .times body count _ => count * body.minLength
  | .optional _ _ => 0
  | .observed body _ => body.minLength
  | .labelled _ body => body.minLength
  | .callable _ _ => 0
  | .inert _ _ => 0

/-- The least number of units several patterns can match in turn: the sum of theirs. -/
def minLengthInTurn : List (Pattern κ) → Nat
  | [] => 0
  | part :: others => part.minLength + minLengthInTurn others

/-- The least numbers of units several patterns can match. -/
def minLengths : List (Pattern κ) → List Nat
  | [] => []
  | part :: others => part.minLength :: minLengths others

end

theorem minLengths_eq_map (parts : List (Pattern κ)) : minLengths parts = parts.map minLength := by
  induction parts with
  | nil => simp [minLengths]
  | cons part others ih => simp [minLengths, ih]

theorem minLengthInTurn_replicate (count : Nat) (body : Pattern κ) :
    minLengthInTurn (List.replicate count body) = count * body.minLength := by
  induction count with
  | zero => simp [minLengthInTurn]
  | succ count ih =>
    rw [List.replicate_succ, minLengthInTurn, ih, Nat.succ_mul]
    omega

/-- The body of every repetition in the pattern matches one unit or more. -/
def Productive (pattern : Pattern κ) : Prop :=
  ∀ body ∈ pattern.repeatedBodies, 1 ≤ body.minLength

instance (pattern : Pattern κ) : Decidable pattern.Productive :=
  inferInstanceAs (Decidable (∀ body ∈ pattern.repeatedBodies, 1 ≤ body.minLength))

end Pattern

namespace Lengths
open Scan Matcher Contract Bounds Traces

variable {base : Cursor}

/-- From every position ahead of the cursor, what the matcher matches has at least so many units. -/
def AtLeast (least : Nat) (base : Cursor) (matcher : Matcher) : Prop :=
  ∀ start span stop, base.Ahead start → matcher.Returns (base.moveTo start) (some span) stop →
    start + least ≤ stop

theorem AtLeast.mono (long : AtLeast least base matcher) (fewer : less ≤ least) :
    AtLeast less base matcher := by
  intro start span stop ahead ran
  exact Nat.le_trans (Nat.add_le_add_left fewer start) (long start span stop ahead ran)

/-- A match never ends before it starts. -/
theorem atLeast_zero (keep : Keeps base matcher) : AtLeast 0 base matcher := by
  intro start span stop ahead ran
  exact (keep start _ _ ahead ran).2.1

theorem atLeast_unit (predicate : Predicate) (observer : Observer) :
    AtLeast 1 base (unit predicate observer) := by
  intro start span stop ahead ran
  rcases returns_unit.mp ran with ⟨_, missed, _⟩ | ⟨next, _, _, later⟩
  · cases missed
  · rcases later with ⟨_, missed, _⟩ | ⟨_, _, _, rfl⟩
    · cases missed
    · exact Nat.le_refl _

theorem atLeast_literal (text : List Char) (observer : Observer) :
    AtLeast text.length base (literal text observer) := by
  intro start span stop ahead ran
  rcases returns_literal.mp ran with ⟨_, missed, _⟩ | ⟨_, _, _, rfl⟩
  · cases missed
  · exact Nat.le_refl _

/-- Parts in turn match at least what they match one by one. -/
theorem allMatch_atLeast {call : κ → Matcher} {parts : List (Pattern κ)}
    (keep : ∀ part ∈ parts, Keeps base (part.run call))
    (long : ∀ part ∈ parts, AtLeast part.minLength base (part.run call))
    (ahead : base.Ahead start)
    (ran : (allMatch (parts.map (Pattern.run call))).Returns (base.moveTo start) true stop) :
    start + Pattern.minLengthInTurn parts ≤ stop := by
  induction parts generalizing start with
  | nil =>
    obtain ⟨_, rfl⟩ := returns_allMatch_nil.mp ran
    exact Nat.le_refl _
  | cons part others ih =>
    rcases returns_allMatch_cons.mp ran with ⟨_, impossible⟩ | ⟨span, middle, first, later⟩
    · cases impossible
    · have matched := long part List.mem_cons_self start span middle ahead first
      have forward := (keep part List.mem_cons_self start _ _ ahead first).2
      have rest := ih (fun other member => keep other (List.mem_cons_of_mem _ member))
        (fun other member => long other (List.mem_cons_of_mem _ member))
        (ahead_trans ahead forward) later
      rw [Pattern.minLengthInTurn]
      omega

theorem atLeast_seq {call : κ → Matcher} {parts : List (Pattern κ)}
    (keep : ∀ part ∈ parts, Keeps base (part.run call))
    (long : ∀ part ∈ parts, AtLeast part.minLength base (part.run call)) (observer : Observer) :
    AtLeast (Pattern.minLengthInTurn parts) base
      (seq (parts.map (Pattern.run call)) observer) := by
  intro start span stop ahead ran
  obtain ⟨all, middle, row, ended⟩ := returns_seq.mp ran
  rcases ended with ⟨_, _, missed, _⟩ | ⟨rfl, _, _, rfl⟩
  · cases missed
  · exact allMatch_atLeast keep long ahead row

theorem firstMatch_atLeast {alternatives : List Matcher}
    (long : ∀ part ∈ alternatives, AtLeast least base part) (ahead : base.Ahead start)
    (ran : (firstMatch start alternatives).Returns (base.moveTo start) (some span) stop) :
    start + least ≤ stop := by
  induction alternatives with
  | nil => cases (returns_firstMatch_nil.mp ran).1
  | cons part others ih =>
    rcases returns_firstMatch_cons.mp ran with ⟨_, first, _⟩ | ⟨middle, _, _, later⟩
    · exact long part List.mem_cons_self start _ stop ahead first
    · exact ih (fun other member => long other (List.mem_cons_of_mem _ member)) later

theorem atLeast_choice {alternatives : List Matcher}
    (long : ∀ part ∈ alternatives, AtLeast least base part) (observer : Observer) :
    AtLeast least base (choice alternatives observer) := by
  intro start span stop ahead ran
  exact firstMatch_atLeast long ahead (returns_choice.mp ran).1

/-- The rounds after the first match only add to it. -/
theorem atLeast_plus (keep : Keeps base body) (long : AtLeast least base body) (label : String)
    (observer : Observer) : AtLeast least base (plus label body observer) := by
  intro start span stop ahead ran
  rcases returns_plus.mp ran with ⟨_, missed⟩ | ⟨_, middle, first, later, _, _⟩
  · cases missed
  · have matched := long start _ middle ahead first
    have forward := (keep start _ _ ahead first).2
    have rest := rounds_ahead keep _ (ahead_trans ahead forward) (returns_exhaust.mp later)
    exact Nat.le_trans matched rest.1

theorem atLeast_observed (long : AtLeast least base matcher) (observer : Observer) :
    AtLeast least base (observed matcher observer) := by
  intro start span stop ahead ran
  exact long start span stop ahead (returns_observed.mp ran).1

/-- No match of a pattern is shorter than its least length. -/
theorem run_atLeast {call : κ → Matcher} {pattern : Pattern κ} (met : pattern.Meets demand)
    (leaves : ∀ target, demand.callable target → Keeps base (call target)) :
    AtLeast pattern.minLength base (pattern.run call) := by
  have keep : ∀ part : Pattern κ, part.Meets demand → Keeps base (part.run call) :=
    fun part met => keeps_run met leaves
  induction met with
  | unit => exact atLeast_unit _ _
  | literal => exact atLeast_literal _ _
  | seq each _ ih =>
    rw [Pattern.run, Pattern.runEach_eq_map, Pattern.minLength]
    exact atLeast_seq (fun part member => keep part (each part member)) ih _
  | choice _ _ ih =>
    rw [Pattern.run, Pattern.runEach_eq_map, Pattern.minLength, Pattern.minLengths_eq_map]
    apply atLeast_choice
    refine List.forall_mem_map.mpr fun part member => (ih part member).mono ?_
    exact List.min?_getD_le_of_mem (List.mem_map_of_mem member)
  | star inner told _ => exact atLeast_zero (keep _ (.star inner told))
  | plus inner _ ih => exact atLeast_plus (keep _ inner) ih _ _
  | @times body observer count inner _ ih =>
    have copies : ∀ part ∈ List.replicate count body, part = body :=
      fun part member => List.eq_of_mem_replicate member
    rw [Pattern.run, times_eq_seq, Pattern.minLength, ← List.map_replicate,
      ← Pattern.minLengthInTurn_replicate]
    apply atLeast_seq
    · intro part member
      rw [copies part member]
      exact keep _ inner
    · intro part member
      rw [copies part member]
      exact ih
  | optional inner told _ => exact atLeast_zero (keep _ (.optional inner told))
  | observed _ _ ih => exact atLeast_observed ih _
  | labelled _ ih => exact ih
  | callable called => exact atLeast_zero (leaves _ called)
  | inert => exact atLeast_zero (keeps_raise _)

/-- The event is not a warning. -/
def Calm (event : Event) : Prop :=
  event.warning? = none

/-- A body that matches one unit or more gives no cause for a warning. -/
theorem warnsWithin_of_atLeast (keep : Keeps base body) (long : AtLeast 1 base body)
    (label : String) : WarnsWithin Calm base label body := by
  intro start span stop ahead matched empty
  have stays := empty_match_stays keep ahead matched empty
  have further := long start span stop ahead matched
  omega

/-- The body of a repetition is made of the same parts as the pattern around it. -/
theorem repeatedBodies_meet {pattern : Pattern κ} (met : pattern.Meets demand) :
    ∀ body ∈ pattern.repeatedBodies, body.Meets demand := by
  induction met with
  | unit => simp [Pattern.repeatedBodies]
  | literal => simp [Pattern.repeatedBodies]
  | seq _ _ ih =>
    rw [Pattern.repeatedBodies, Pattern.repeatedBodiesEach_eq_flatMap, List.forall_mem_flatMap]
    exact ih
  | choice _ _ ih =>
    rw [Pattern.repeatedBodies, Pattern.repeatedBodiesEach_eq_flatMap, List.forall_mem_flatMap]
    exact ih
  | star inner _ ih =>
    rw [Pattern.repeatedBodies, List.forall_mem_cons]
    exact ⟨inner, ih⟩
  | plus inner _ ih =>
    rw [Pattern.repeatedBodies, List.forall_mem_cons]
    exact ⟨inner, ih⟩
  | times _ _ ih => exact ih
  | optional _ _ ih => exact ih
  | observed _ _ ih => exact ih
  | labelled _ ih => exact ih
  | callable => simp [Pattern.repeatedBodies]
  | inert => simp [Pattern.repeatedBodies]

/-- A productive pattern over callables that never warn never warns. -/
theorem run_calm {call : κ → Matcher} {pattern : Pattern κ} (valid : base.Valid)
    (productive : pattern.Productive) (met : pattern.Meets (partsLeaving Calm base call)) :
    LeavesWithin Calm base (pattern.run call) := by
  have own : AsksAndTells Calm base := ⟨fun _ _ _ => rfl, fun _ _ _ => rfl⟩
  apply run_leavesWithin_of_warns valid own met
  -- Only the bodies of repetitions can give cause for a warning, each by an empty match.
  intro body member
  have parts := repeatedBodies_meet met body member
  have keep := keeps_run parts fun _ called => called.1
  have long := run_atLeast parts fun _ called => called.1
  exact warnsWithin_of_atLeast keep (long.mono (productive body member)) body.label

/-- All repetitions in a recipe are of single units. -/
theorem recipe_productive (observer : Observer) (recipe : Recipe) :
    (recipe.pattern observer : Pattern κ).Productive := by
  cases recipe <;> exact of_decide_eq_true rfl

/-- A match of a pattern over callables that keep the contract has at least as many units as the
pattern's least length, so there is none where fewer remain. If moreover the callables never warn
and the body of every repetition in the pattern has least length one or more, then no run of the
pattern warns, however it ends. In particular no run of a recipe does. -/
theorem matches_reach_minLength_without_warning (call : κ → Matcher) (cursor : Cursor)
    (valid : cursor.Valid) :
    (∀ pattern : Pattern κ, pattern.Meets (.ofCallables fun target => Keeps cursor (call target)) →
      ∀ span stop, (pattern.run call).Returns cursor (some span) stop →
        ∃ length : Nat, span = ⟨cursor.position, (cursor.position + length : Nat)⟩ ∧
          pattern.minLength ≤ length ∧ length ≤ cursor.remaining) ∧
    (∀ pattern : Pattern κ, pattern.Meets (partsLeaving Calm cursor call) →
      (∀ body ∈ pattern.repeatedBodies, 1 ≤ body.minLength) →
        ∀ event ∈ ((pattern.run call).run cursor).trace, event.warning? = none) ∧
    ∀ (recipe : Recipe) (observer : Observer),
      ∀ event ∈ (((recipe.pattern observer).run call).run cursor).trace, event.warning? = none := by
  have start := Cursor.ahead_self valid
  refine ⟨?_, ?_, ?_⟩
  · intro pattern met span stop ran
    obtain ⟨rfl, forward⟩ := keeps_run met (fun _ keep => keep) _ _ _ start ran
    have long := run_atLeast met (fun _ keep => keep) _ _ _ start ran
    obtain ⟨low, high⟩ := forward
    simp only [Cursor.moveTo_position, Cursor.moveTo_limit] at low high
    have whole : cursor.position + (stop - cursor.position) = stop := by omega
    refine ⟨stop - cursor.position, ?_, ?_, ?_⟩
    · rw [whole, Cursor.moveTo_position]
    · omega
    · simp only [Cursor.remaining]
      omega
  · intro pattern met productive
    exact run_calm valid productive met _ start
  · intro recipe observer
    have met : (recipe.pattern observer : Pattern κ).Meets (partsLeaving Calm cursor call) :=
      Recipe.pattern_meets (fun _ => trivial) trivial trivial recipe
    exact run_calm valid (recipe_productive observer recipe) met _ start

/-- Pairs of letters and two semicolons after them, or else units up to a mark that a callable
stands for. -/
def pairsOrMarked : Pattern Unit :=
  .choice [
    .seq [.plus (.times (.ofClass .letter .silent) 2 .silent) (.record "pairs"),
      .literal [';', ';'] .silent] .silent,
    .seq [.plus (.noneOf [';'] (.collect "units")) .silent, .callable "mark" ()] .silent] .silent

/-- The mark. -/
def semicolon : Unit → Matcher :=
  fun _ => Matcher.literal [';'] .silent

/-- Three letters and a mark. -/
def markedLetters : Cursor :=
  ⟨.text ['a', 'b', 'c', ';'], 0, 0, 4⟩

/-- The pairs are given up, and the units up to the mark are matched, without a warning. -/
theorem pairsOrMarked_reaches :
    markedLetters.Valid ∧ pairsOrMarked.minLength = 1 ∧ pairsOrMarked.Productive ∧
    pairsOrMarked.Meets (partsLeaving Calm markedLetters semicolon) ∧
    (pairsOrMarked.run semicolon).Returns markedLetters (some ⟨0, 4⟩) 4 ∧
    (∃ length : Nat, (⟨0, 4⟩ : Span) = ⟨0, (0 + length : Nat)⟩ ∧ 1 ≤ length ∧ length ≤ 4) ∧
    (∀ event ∈ ((pairsOrMarked.run semicolon).run markedLetters).trace,
      event.warning? = none) := by
  have valid : markedLetters.Valid := by decide
  have productive : pairsOrMarked.Productive := by decide
  have literal : (Pattern.literal [';'] .silent).Meets
      (partsLeaving Calm markedLetters semicolon) := .literal trivial
  have mark : Keeps markedLetters (semicolon ()) ∧ LeavesWithin Calm markedLetters (semicolon ()) :=
    ⟨keeps_literal _ _, run_calm valid (by decide) literal⟩
  have met : pairsOrMarked.Meets (partsLeaving Calm markedLetters semicolon) := by
    apply Pattern.Meets.choice
    · intro part member
      simp only [List.mem_cons, List.not_mem_nil, or_false] at member
      rcases member with rfl | rfl
      · exact .pair (.plus (.times (.unit trivial trivial) trivial) trivial)
          (.literal trivial) trivial
      · exact .pair (.plus (.unit trivial trivial) trivial) (.callable mark) trivial
    · trivial
  have keeping : pairsOrMarked.Meets
      (.ofCallables fun target => Keeps markedLetters (semicolon target)) :=
    met.callables fun _ called => called.1
  have ran : (pairsOrMarked.run semicolon).Returns markedLetters (some ⟨0, 4⟩) 4 := ⟨rfl, rfl⟩
  obtain ⟨long, calm, _⟩ := matches_reach_minLength_without_warning semicolon markedLetters valid
  exact ⟨valid, rfl, productive, met, ran, long _ keeping _ _ ran, calm _ met productive⟩

end Lengths

end SpanLexer
