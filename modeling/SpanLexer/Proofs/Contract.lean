import SpanLexer.Proofs.Combinators
import SpanLexer.Proofs.Demand
import SpanLexer.Grammar

/-!
The contract of a matcher: no match leaves the cursor where it was, and a match gives the span
from where it was to where it is now, which is not further back.

Sequences, choices and exact counts put the cursor back themselves; everything else keeps the
contract because its parts do. A pattern keeps it as soon as its callables do, and a grammar, whose
late callables run its own patterns, keeps it at every depth of calls. Matches taken one after
another therefore tile what they consume.
-/
namespace SpanLexer.Contract
open Scan Matcher

/-- What the contract says of a run from the cursor that returned. -/
def Fulfilled (cursor : Cursor) : Option Span → Nat → Prop
  | none, stop => stop = cursor.position
  | some span, stop => span = ⟨cursor.position, stop⟩ ∧ cursor.Ahead stop

/-- From every position ahead of the cursor, every run of the matcher that returns fulfils the
contract. -/
def Keeps (base : Cursor) (matcher : Matcher) : Prop :=
  ∀ start result stop, base.Ahead start → matcher.Returns (base.moveTo start) result stop →
    Fulfilled (base.moveTo start) result stop

variable {base : Cursor}

theorem ahead_trans (first : base.Ahead start) (later : (base.moveTo start).Ahead stop) :
    base.Ahead stop :=
  ⟨Nat.le_trans first.1 later.1, later.2⟩

private theorem ahead_stay (ahead : base.Ahead start) : (base.moveTo start).Ahead start :=
  ⟨Nat.le_refl _, ahead.2⟩

private theorem ahead_chain (first : (base.moveTo start).Ahead middle)
    (later : (base.moveTo middle).Ahead stop) : (base.moveTo start).Ahead stop :=
  ⟨Nat.le_trans first.1 later.1, later.2⟩

/-- A matcher that keeps the contract comes only ahead. -/
theorem ahead_of_keeps (keep : Keeps base matcher) (ahead : base.Ahead start)
    (ran : matcher.Returns (base.moveTo start) result stop) : base.Ahead stop := by
  have fulfilled := keep start result stop ahead ran
  cases result with
  | none =>
    cases fulfilled
    exact ahead
  | some span => exact ahead_trans ahead fulfilled.2

theorem keeps_unit (predicate : Predicate) (observer : Observer) :
    Keeps base (unit predicate observer) := by
  intro start result stop ahead ran
  rcases returns_unit.mp ran with ⟨_, rfl, rfl⟩ | ⟨next, some_left, _, later⟩
  · rfl
  · rcases later with ⟨_, rfl, rfl⟩ | ⟨_, _, rfl, rfl⟩
    · rfl
    · refine ⟨rfl, Nat.le_succ _, ?_⟩
      simp only [Cursor.remaining_moveTo] at some_left
      simp only [Cursor.moveTo_position, Cursor.moveTo_limit]
      omega

theorem keeps_literal (text : List Char) (observer : Observer) :
    Keeps base (literal text observer) := by
  intro start result stop ahead ran
  rcases returns_literal.mp ran with ⟨_, rfl, rfl⟩ | ⟨stands, _, rfl, rfl⟩
  · rfl
  · have short := Cursor.length_le_of_startsWith stands
    have low := ahead.2
    refine ⟨rfl, Nat.le_add_right _ _, ?_⟩
    simp only [Cursor.moveTo_position, Cursor.moveTo_limit, Cursor.remaining_moveTo] at short ⊢
    omega

theorem allMatch_ahead {parts : List Matcher} (keep : ∀ part ∈ parts, Keeps base part)
    (ahead : base.Ahead start) (ran : (allMatch parts).Returns (base.moveTo start) true stop) :
    (base.moveTo start).Ahead stop := by
  induction parts generalizing start with
  | nil =>
    obtain ⟨_, rfl⟩ := returns_allMatch_nil.mp ran
    exact ahead_stay ahead
  | cons part others ih =>
    rcases returns_allMatch_cons.mp ran with ⟨_, impossible⟩ | ⟨span, middle, first, later⟩
    · cases impossible
    · have matched := (keep part (by simp) start _ _ ahead first).2
      have rest := ih (fun other member => keep other (by simp [member]))
        (ahead_trans ahead matched) later
      exact ahead_chain matched rest

theorem keeps_seq {parts : List Matcher} (keep : ∀ part ∈ parts, Keeps base part)
    (observer : Observer) : Keeps base (seq parts observer) := by
  intro start result stop ahead ran
  obtain ⟨all, middle, row, ended⟩ := returns_seq.mp ran
  rcases ended with ⟨rfl, _, rfl, rfl⟩ | ⟨rfl, _, rfl, rfl⟩
  · rfl
  · exact ⟨rfl, allMatch_ahead keep ahead row⟩

theorem keeps_times (keep : Keeps base body) (count : Nat) (observer : Observer) :
    Keeps base (times body count observer) := by
  rw [times_eq_seq]
  apply keeps_seq
  intro part member
  rw [List.eq_of_mem_replicate member]
  exact keep

theorem keeps_observed (keep : Keeps base matcher) (observer : Observer) :
    Keeps base (observed matcher observer) := by
  intro start result stop ahead ran
  exact keep start result stop ahead (returns_observed.mp ran).1

theorem firstMatch_fulfils {alternatives : List Matcher}
    (keep : ∀ part ∈ alternatives, Keeps base part) (ahead : base.Ahead start)
    (ran : (firstMatch start alternatives).Returns (base.moveTo start) result stop) :
    Fulfilled (base.moveTo start) result stop := by
  induction alternatives with
  | nil =>
    obtain ⟨rfl, rfl⟩ := returns_firstMatch_nil.mp ran
    rfl
  | cons part others ih =>
    rcases returns_firstMatch_cons.mp ran with ⟨span, first, rfl⟩ | ⟨middle, _, _, later⟩
    · exact keep part (by simp) start _ _ ahead first
    · exact ih (fun other member => keep other (by simp [member])) later

theorem keeps_choice {alternatives : List Matcher}
    (keep : ∀ part ∈ alternatives, Keeps base part) (observer : Observer) :
    Keeps base (choice alternatives observer) := by
  intro start result stop ahead ran
  exact firstMatch_fulfils keep ahead (returns_choice.mp ran).1

/-- A round leads ahead, whether another is to follow or not. -/
theorem round_ahead (keep : Keeps base body) (ahead : base.Ahead start)
    (ran : (round label body).Returns (base.moveTo start) more stop) :
    (base.moveTo start).Ahead stop := by
  cases more with
  | true =>
    obtain ⟨_, span, length, matched, _⟩ := returns_round_true.mp ran
    exact (keep start _ _ ahead matched).2
  | false =>
    rcases returns_round_false.mp ran with ⟨_, rfl⟩ | ⟨_, missed | ⟨span, matched, _⟩⟩
    · exact ahead_stay ahead
    · cases keep start _ _ ahead missed
      exact ahead_stay ahead
    · exact (keep start _ _ ahead matched).2

/-- The length of a span that does not run backwards is refused only when it is too large. -/
theorem length?_forward (forward : start ≤ stop) :
    (⟨(start : Nat), (stop : Nat)⟩ : Span).length? =
      if Span.maxLength < (stop - start : Nat) then .error .lengthOverflow
      else .ok (stop - start) := by
  have difference : (stop : Int) - start = (stop - start : Nat) := by omega
  simp only [Span.length?, difference, Int.toNat_natCast]
  rw [if_neg (by omega)]

/-- What matches the empty span leaves the cursor where it was. -/
theorem empty_match_stays (keep : Keeps base body) (ahead : base.Ahead start)
    (matched : body.Returns (base.moveTo start) (some span) stop)
    (empty : span.length? = .ok 0) : stop = start := by
  obtain ⟨rfl, forward⟩ := keep start _ _ ahead matched
  rw [length?_forward forward.1] at empty
  split at empty
  · cases empty
  · have low := forward.1
    simp only [Except.ok.injEq, Cursor.moveTo_position] at empty low
    omega

/-- A round that another is to follow has moved the cursor ahead. -/
theorem round_forward (keep : Keeps base body) (ahead : base.Ahead start)
    (ran : (round label body).Returns (base.moveTo start) true stop) : start < stop := by
  obtain ⟨_, span, length, matched, measured, full⟩ := returns_round_true.mp ran
  obtain ⟨rfl, forward⟩ := keep start _ _ ahead matched
  rw [length?_forward forward.1] at measured
  split at measured
  · cases measured
  · cases measured
    simp only [Cursor.moveTo_position] at full
    omega

/-- The last round leaves the cursor where it was. -/
theorem round_stays (keep : Keeps base body) (ahead : base.Ahead start)
    (ran : (round label body).Returns (base.moveTo start) false stop) : stop = start := by
  rcases returns_round_false.mp ran with ⟨_, rfl⟩ | ⟨_, missed | ⟨span, matched, empty⟩⟩
  · rfl
  · exact keep start _ _ ahead missed
  · exact empty_match_stays keep ahead matched empty

theorem rounds_ahead (keep : Keeps base body) (bound : Nat) (ahead : base.Ahead start)
    (ran : (rounds label body bound).Returns (base.moveTo start) value stop) :
    (base.moveTo start).Ahead stop := by
  induction bound generalizing start with
  | zero =>
    obtain ⟨_, rfl⟩ := returns_rounds_zero.mp ran
    exact ahead_stay ahead
  | succ bound ih =>
    rcases returns_rounds_succ.mp ran with last | ⟨middle, first, later⟩
    · exact round_ahead keep ahead last
    · have forward := round_ahead keep ahead first
      exact ahead_chain forward (ih (ahead_trans ahead forward) later)

theorem keeps_star (keep : Keeps base body) (label : String) (observer : Observer) :
    Keeps base (star label body observer) := by
  intro start result stop ahead ran
  obtain ⟨repeated, _, rfl⟩ := returns_star.mp ran
  exact ⟨rfl, rounds_ahead keep _ ahead (returns_exhaust.mp repeated)⟩

theorem keeps_plus (keep : Keeps base body) (label : String) (observer : Observer) :
    Keeps base (plus label body observer) := by
  intro start result stop ahead ran
  rcases returns_plus.mp ran with ⟨missed, rfl⟩ | ⟨span, middle, first, later, _, rfl⟩
  · exact keep start _ _ ahead missed
  · have matched := (keep start _ _ ahead first).2
    have rest := rounds_ahead keep _ (ahead_trans ahead matched) (returns_exhaust.mp later)
    exact ⟨rfl, ahead_chain matched rest⟩

theorem keeps_optional (keep : Keeps base body) (observer : Observer) :
    Keeps base (optional body observer) := by
  intro start result stop ahead ran
  obtain ⟨_, matched, first, rfl⟩ := returns_optional.mp ran
  cases matched with
  | none =>
    cases keep start _ _ ahead first
    exact ⟨rfl, ahead_stay ahead⟩
  | some span => exact keep start _ _ ahead first

theorem keeps_raise (fault : Fault) : Keeps base (raise fault) := by
  intro start result stop ahead ran
  exact (returns_raise.mp ran).elim

/-- A pattern keeps the contract as soon as its callables do. -/
theorem keeps_run {call : κ → Matcher} {pattern : Pattern κ}
    (met : pattern.Meets demand)
    (leaves : ∀ target, demand.callable target → Keeps base (call target)) :
    Keeps base (pattern.run call) := by
  induction met with
  | unit => exact keeps_unit _ _
  | literal => exact keeps_literal _ _
  | seq _ _ ih =>
    rw [Pattern.run, Pattern.runEach_eq_map]
    exact keeps_seq (List.forall_mem_map.mpr ih) _
  | choice _ _ ih =>
    rw [Pattern.run, Pattern.runEach_eq_map]
    exact keeps_choice (List.forall_mem_map.mpr ih) _
  | star _ _ ih => exact keeps_star ih _ _
  | plus _ _ ih => exact keeps_plus ih _ _
  | times _ _ ih => exact keeps_times ih _ _
  | optional _ _ ih => exact keeps_optional ih _
  | observed _ _ ih => exact keeps_observed ih _
  | labelled _ ih => exact ih
  | callable called => exact leaves _ called
  | inert => exact keeps_raise _

/-- A late callable has nothing of its own to keep. A script keeps the contract by itself when it
does so at every depth of calls at which everything that runs by name further down does. -/
def Honest (base : Cursor) (library : Library) : Callable → Prop
  | .late _ => True
  | .script actions => ∀ depth,
      (∀ lower name, lower < depth → Keeps base (library.call lower (.late name))) →
        Keeps base (library.call depth (.script actions))

/-- All plain callables of the named patterns keep the contract by themselves. -/
def HonestLibrary (base : Cursor) (library : Library) : Prop :=
  ∀ entry ∈ library, entry.2.Meets (.ofCallables (Honest base library))

/-- A call by name keeps the contract, however deep calls may be nested. The induction is on that
depth: what a pattern calls runs one level further down. -/
theorem keeps_call_late (honest : HonestLibrary base library) (depth : Nat) (name : String) :
    Keeps base (library.call depth (.late name)) := by
  induction depth using Nat.strongRecOn generalizing name with
  | ind depth ih =>
    cases depth with
    | zero => exact keeps_raise _
    | succ depth =>
      rw [Library.call]
      split
      · exact keeps_raise _
      · rename_i pattern found
        rw [delay_eq]
        obtain ⟨before, after, split, _⟩ := List.lookup_eq_some_iff.mp found
        have met := honest (name, pattern) (by rw [split]; simp)
        apply keeps_run met
        intro target own
        cases target with
        | late other => exact ih depth (Nat.lt_succ_self _) other
        | script actions =>
          exact own depth fun lower other below => ih lower (Nat.lt_succ_of_lt below) other

theorem keeps_at_depth {pattern : Pattern Callable} (honest : HonestLibrary base library)
    (met : pattern.Meets (.ofCallables (Honest base library))) (depth : Nat) :
    Keeps base (pattern.run (library.call depth)) := by
  apply keeps_run met
  intro target own
  cases target with
  | late name => exact keeps_call_late honest depth name
  | script actions => exact own depth fun lower name _ => keeps_call_late honest lower name

theorem keeps_grammar {pattern : Pattern Callable} (honest : HonestLibrary base library)
    (met : pattern.Meets (.ofCallables (Honest base library))) :
    Keeps base (library.run pattern) := by
  intro start result stop ahead ran
  obtain ⟨_, _, measured, nested⟩ := returns_bind.mp ran
  obtain ⟨rfl, rfl⟩ := returns_extent.mp measured
  exact keeps_at_depth honest met _ _ result stop ahead nested

/-- Runs matchers one after another on one cursor, whether they match or not, and gives the spans
of those that match. -/
def inTurn : List Matcher → Scan (List Span)
  | [] => return []
  | matcher :: others => do
    match ← matcher with
    | none => inTurn others
    | some span => return span :: (← inTurn others)

/-- The spans lie end to end, from the one position to the other. -/
inductive Tiles : Nat → List Span → Nat → Prop where
  | nil (start : Nat) : Tiles start [] start
  | cons (forward : start ≤ middle) (others : Tiles middle spans stop) :
      Tiles start (⟨start, middle⟩ :: spans) stop

private theorem inTurn_step {matchers : List Matcher} (keep : Keeps base matcher)
    (ahead : base.Ahead start)
    (ran : (inTurn (matcher :: matchers)).Returns (base.moveTo start) spans stop) :
    (inTurn matchers).Returns (base.moveTo start) spans stop ∨
      ∃ middle others, (base.moveTo start).Ahead middle ∧ spans = ⟨start, middle⟩ :: others ∧
        (inTurn matchers).Returns (base.moveTo middle) others stop := by
  rw [inTurn] at ran
  obtain ⟨matched, middle, first, later⟩ := returns_bind.mp ran
  have fulfilled := keep start matched middle ahead first
  cases matched with
  | none =>
    cases fulfilled
    exact .inl later
  | some span =>
    obtain ⟨rfl, forward⟩ := fulfilled
    obtain ⟨others, _, later, given⟩ := returns_bind.mp later
    obtain ⟨rfl, rfl⟩ := returns_pure.mp given
    exact .inr ⟨middle, others, forward, rfl, later⟩

/-- What matchers that keep the contract match in turn tiles what they consume. -/
theorem inTurn_tiles {matchers : List Matcher} (keep : ∀ matcher ∈ matchers, Keeps base matcher)
    (ahead : base.Ahead start)
    (ran : (inTurn matchers).Returns (base.moveTo start) spans stop) :
    Tiles start spans stop ∧ base.Ahead stop := by
  induction matchers generalizing start spans with
  | nil =>
    obtain ⟨rfl, rfl⟩ := returns_pure.mp ran
    exact ⟨.nil _, ahead⟩
  | cons matcher matchers ih =>
    have others := fun other member => keep other (List.mem_cons_of_mem matcher member)
    rcases inTurn_step (keep matcher List.mem_cons_self) ahead ran with
      later | ⟨middle, rest, forward, rfl, later⟩
    · exact ih others ahead later
    · obtain ⟨tiled, stopAhead⟩ := ih others (ahead_trans ahead forward) later
      exact ⟨.cons forward.1 tiled, stopAhead⟩

private theorem tiles_forward (tiled : Tiles start spans stop) : start ≤ stop := by
  induction tiled with
  | nil => exact Nat.le_refl _
  | cons forward _ ih => exact Nat.le_trans forward ih

/-- What tiles read, put together, is what lies between their ends. -/
theorem tiles_text (inside : base.Inside) (tiled : Tiles start spans stop)
    (startAhead : base.Ahead start) (stopAhead : base.Ahead stop) :
    spans.flatMap base.buffer.textOf ++ (base.moveTo stop).rest = (base.moveTo start).rest := by
  induction tiled with
  | nil => rfl
  | @cons start middle spans stop forward others ih =>
    have middleAhead : base.Ahead middle :=
      ⟨Nat.le_trans startAhead.1 forward, Nat.le_trans (tiles_forward others) stopAhead.2⟩
    have next : (base.moveTo start).Ahead middle := ⟨forward, middleAhead.2⟩
    rw [List.flatMap_cons, List.append_assoc, ih middleAhead stopAhead]
    exact Cursor.textOf_append_rest (Cursor.inside_moveTo inside startAhead) next

/-- Patterns over callables that keep the contract keep it, and so do grammars whose late callables
run patterns by name. A matcher that keeps it either leaves the cursor where it was, or gives the
span of what it consumed, which together with what is left reads as what was there. Any matchers
that keep it, run in turn, give spans that tile what they consume and read as it. -/
theorem patterns_and_grammars_keep_contract (cursor : Cursor) (inside : cursor.Inside) :
    (∀ (κ : Type) (call : κ → Matcher) (pattern : Pattern κ),
      pattern.Meets (.ofCallables fun target => Keeps cursor (call target)) →
        Keeps cursor (pattern.run call)) ∧
    (∀ (library : Library) (pattern : Pattern Callable), HonestLibrary cursor library →
      pattern.Meets (.ofCallables (Honest cursor library)) →
        Keeps cursor (library.run pattern) ∧
          ∀ depth, Keeps cursor (pattern.run (library.call depth))) ∧
    (∀ matcher, Keeps cursor matcher → ∀ stop,
      (matcher.Returns cursor none stop → stop = cursor.position) ∧
      ∀ span, matcher.Returns cursor (some span) stop →
        span.start = cursor.position ∧ span.stop = stop ∧
        cursor.position ≤ stop ∧ stop ≤ cursor.limit ∧
        cursor.buffer.textOf span ++ (cursor.moveTo stop).rest = cursor.rest) ∧
    (∀ matchers, (∀ matcher ∈ matchers, Keeps cursor matcher) → ∀ spans stop,
      (inTurn matchers).Returns cursor spans stop →
        Tiles cursor.position spans stop ∧ stop ≤ cursor.limit ∧
        spans.flatMap cursor.buffer.textOf ++ (cursor.moveTo stop).rest = cursor.rest) := by
  have here := Cursor.ahead_self inside.1
  refine ⟨?_, ?_, ?_, ?_⟩
  · intro κ call pattern met
    exact keeps_run met fun target own => own
  · intro library pattern honest met
    exact ⟨keeps_grammar honest met, keeps_at_depth honest met⟩
  · intro matcher keep stop
    refine ⟨fun ran => keep cursor.position none stop here ran, fun span ran => ?_⟩
    obtain ⟨rfl, ahead⟩ := keep cursor.position (some span) stop here ran
    exact ⟨rfl, rfl, ahead.1, ahead.2, Cursor.textOf_append_rest inside ahead⟩
  · intro matchers keep spans stop ran
    obtain ⟨tiled, ahead⟩ := inTurn_tiles keep here ran
    exact ⟨tiled, ahead.2, tiles_text inside tiled here ahead⟩

/-- A word of one letter, matched by a script of its own. -/
def letterScript : List Action :=
  [.expect ['x'], .advance 1, .give]

/-- A letter in any number of brackets: the pattern runs itself by name. -/
def bracketed : Pattern Callable :=
  .choice [.seq [.character '(' .silent, .callable "lazy" (.late "bracketed"),
    .character ')' .silent] .silent, .callable "letter" (.script letterScript)] .silent

/-- The second unit of a text up to the last but one. -/
def bracketedText : Cursor :=
  ⟨.text ['<', '(', '(', 'x', ')', ')', 'x', '>'], 1, 1, 7⟩

private theorem letterScript_honest (base : Cursor) (library : Library) :
    Honest base library (.script letterScript) := by
  intro depth _ start result stop ahead ran
  cases depth with
  | zero => exact (returns_raise.mp ran).elim
  | succ depth =>
    obtain ⟨_, _, started, ran⟩ := returns_bind.mp ran
    obtain ⟨rfl, rfl⟩ := returns_position.mp started
    simp only [letterScript, Action.perform, returns_bind, returns_startsWith] at ran
    obtain ⟨_, _, ⟨rfl, rfl⟩, ran⟩ := ran
    split at ran
    · simp only [returns_bind, returns_advance, returns_spanFrom, returns_pure] at ran
      obtain ⟨_, _, ⟨room, rfl⟩, _, _, ⟨rfl, rfl⟩, rfl, rfl⟩ := ran
      have high := ahead.2
      have left := room.2
      refine ⟨rfl, Nat.le_add_right _ _, ?_⟩
      simp only [Cursor.moveTo_position, Cursor.moveTo_limit, Cursor.remaining_moveTo] at *
      omega
    · obtain ⟨rfl, rfl⟩ := returns_pure.mp ran
      rfl

private theorem bracketed_meets (base : Cursor) (library : Library) :
    bracketed.Meets (.ofCallables (Honest base library)) := by
  refine .choice ?_ trivial
  intro part member
  simp only [List.mem_cons, List.not_mem_nil, or_false] at member
  rcases member with rfl | rfl
  · refine .seq ?_ trivial
    intro part member
    simp only [List.mem_cons, List.not_mem_nil, or_false] at member
    rcases member with rfl | rfl | rfl
    · exact .unit trivial trivial
    · exact .callable trivial
    · exact .unit trivial trivial
  · exact .callable (letterScript_honest base library)

/-- Two matches and a failure of a grammar that runs itself, in a window in the middle of a text. -/
theorem bracketedText_tiled :
    bracketedText.Inside ∧
    (inTurn (List.replicate 3 (Library.run [("bracketed", bracketed)] bracketed))).Returns
      bracketedText [⟨1, 6⟩, ⟨6, 7⟩] 7 ∧
    Tiles 1 [⟨1, 6⟩, ⟨6, 7⟩] 7 ∧
    [⟨1, 6⟩, ⟨6, 7⟩].flatMap bracketedText.buffer.textOf ++ (bracketedText.moveTo 7).rest =
      bracketedText.rest := by
  have inside : bracketedText.Inside := by decide
  obtain ⟨_, grammars, _, tiling⟩ := patterns_and_grammars_keep_contract bracketedText inside
  have honest : HonestLibrary bracketedText [("bracketed", bracketed)] := by
    intro entry member
    rw [List.mem_singleton.mp member]
    exact bracketed_meets _ _
  have keep := (grammars _ bracketed honest (bracketed_meets _ _)).1
  have ran : (inTurn (List.replicate 3 (Library.run [("bracketed", bracketed)] bracketed))).Returns
      bracketedText [⟨1, 6⟩, ⟨6, 7⟩] 7 := ⟨by rfl, by rfl⟩
  obtain ⟨tiled, _, read⟩ := tiling _ (fun matcher member => by
    rw [List.eq_of_mem_replicate member]
    exact keep) _ _ ran
  exact ⟨inside, ran, tiled, read⟩

end SpanLexer.Contract
