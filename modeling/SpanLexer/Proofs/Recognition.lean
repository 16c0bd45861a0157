import SpanLexer.Proofs.Faults

/-!
What a pattern recognizes, said on lists of units alone: no cursor, no position, nothing that moves.

`Recognizes pattern input verdict` tells how many of the first units of the input a pattern
consumes, or that it fails. The rules are those of ordered choice: the first alternative that does
not fail is taken for good, and a repetition goes on for as long as it consumes something. A
pattern run on a cursor gives exactly the verdict that the rules give for the units that remain.
-/
namespace SpanLexer.Recognition
open Scan Matcher Contract Faults

mutual

/-- The pattern consumes so many of the first units of the input, or none at all because it
fails. -/
inductive Recognizes : Pattern κ → List Char → Option Nat → Prop where
  | unit_accepted (accepted : predicate.test next = .ok true) :
      Recognizes (.unit label predicate observer) (next :: others) (some 1)
  | unit_rejected (rejected : predicate.test next = .ok false) :
      Recognizes (.unit label predicate observer) (next :: others) none
  | unit_missing : Recognizes (.unit label predicate observer) [] none
  | literal_stands (stands : text <+: input) :
      Recognizes (.literal text observer) input (some text.length)
  | literal_differs (differs : ¬ text <+: input) : Recognizes (.literal text observer) input none
  | seq (all : RecognizesAll parts input verdict) : Recognizes (.seq parts observer) input verdict
  | choice (first : RecognizesFirst alternatives input verdict) :
      Recognizes (.choice alternatives observer) input verdict
  | star (repeated : RecognizesRounds body input amount) :
      Recognizes (.star body observer) input (some amount)
  | plus (first : Recognizes body input (some amount))
      (repeated : RecognizesRounds body (input.drop amount) more) :
      Recognizes (.plus body observer) input (some (amount + more))
  | plus_fails (first : Recognizes body input none) : Recognizes (.plus body observer) input none
  | times (all : RecognizesAll (List.replicate count body) input verdict) :
      Recognizes (.times body count observer) input verdict
  | optional (found : Recognizes body input (some amount)) :
      Recognizes (.optional body observer) input (some amount)
  | optional_empty (missing : Recognizes body input none) :
      Recognizes (.optional body observer) input (some 0)
  | observed (inner : Recognizes body input verdict) :
      Recognizes (.observed body observer) input verdict
  | labelled (inner : Recognizes body input verdict) :
      Recognizes (.labelled label body) input verdict

/-- Each part consumes what the ones before it have left; if one fails, all fail. -/
inductive RecognizesAll : List (Pattern κ) → List Char → Option Nat → Prop where
  | nil : RecognizesAll [] input (some 0)
  | cons (first : Recognizes part input (some amount))
      (later : RecognizesAll others (input.drop amount) verdict) :
      RecognizesAll (part :: others) input (verdict.map (amount + ·))
  | fails (first : Recognizes part input none) : RecognizesAll (part :: others) input none

/-- The first alternative that does not fail. -/
inductive RecognizesFirst : List (Pattern κ) → List Char → Option Nat → Prop where
  | nil : RecognizesFirst [] input none
  | found (first : Recognizes part input (some amount)) :
      RecognizesFirst (part :: others) input (some amount)
  | passed (first : Recognizes part input none) (later : RecognizesFirst others input verdict) :
      RecognizesFirst (part :: others) input verdict

/-- One match after another, until the input is used up, the body fails, or it consumes nothing. -/
inductive RecognizesRounds : Pattern κ → List Char → Nat → Prop where
  | exhausted : RecognizesRounds body [] 0
  | fails (left : input ≠ []) (last : Recognizes body input none) : RecognizesRounds body input 0
  | empty (left : input ≠ []) (last : Recognizes body input (some 0)) :
      RecognizesRounds body input 0
  | again (left : input ≠ []) (first : Recognizes body input (some amount)) (full : 0 < amount)
      (later : RecognizesRounds body (input.drop amount) more) :
      RecognizesRounds body input (amount + more)

end

mutual

/-- The rules give at most one verdict. -/
theorem recognizes_unique {pattern : Pattern κ} (one : Recognizes pattern input verdict)
    (two : Recognizes pattern input other) : verdict = other := by
  match one with
  | .unit_accepted accepted =>
    cases two with
    | unit_accepted => rfl
    | unit_rejected rejected => rw [accepted] at rejected; cases rejected
  | .unit_rejected rejected =>
    cases two with
    | unit_accepted accepted => rw [accepted] at rejected; cases rejected
    | unit_rejected => rfl
  | .unit_missing => cases two; rfl
  | .literal_stands stands =>
    cases two with
    | literal_stands => rfl
    | literal_differs differs => exact (differs stands).elim
  | .literal_differs differs =>
    cases two with
    | literal_stands stands => exact (differs stands).elim
    | literal_differs => rfl
  | .seq all => cases two with | seq also => exact recognizesAll_unique all also
  | .choice first => cases two with | choice also => exact recognizesFirst_unique first also
  | .star repeated => cases two with | star also => rw [recognizesRounds_unique repeated also]
  | .plus first repeated =>
    cases two with
    | plus same also =>
      cases recognizes_unique first same
      rw [recognizesRounds_unique repeated also]
    | plus_fails fails => cases recognizes_unique first fails
  | .plus_fails fails =>
    cases two with
    | plus first _ => cases recognizes_unique fails first
    | plus_fails => rfl
  | .times all => cases two with | times also => exact recognizesAll_unique all also
  | .optional found =>
    cases two with
    | optional same => exact recognizes_unique found same
    | optional_empty missing => cases recognizes_unique found missing
  | .optional_empty missing =>
    cases two with
    | optional found => cases recognizes_unique missing found
    | optional_empty => rfl
  | .observed inner => cases two with | observed same => exact recognizes_unique inner same
  | .labelled inner => cases two with | labelled same => exact recognizes_unique inner same
termination_by structural one

theorem recognizesAll_unique {parts : List (Pattern κ)} (one : RecognizesAll parts input verdict)
    (two : RecognizesAll parts input other) : verdict = other := by
  match one with
  | .nil => cases two; rfl
  | .cons first later =>
    cases two with
    | cons same also =>
      cases recognizes_unique first same
      rw [recognizesAll_unique later also]
    | fails missing => cases recognizes_unique first missing
  | .fails missing =>
    cases two with
    | cons first _ => cases recognizes_unique missing first
    | fails => rfl
termination_by structural one

theorem recognizesFirst_unique {alternatives : List (Pattern κ)}
    (one : RecognizesFirst alternatives input verdict)
    (two : RecognizesFirst alternatives input other) : verdict = other := by
  match one with
  | .nil => cases two; rfl
  | .found first =>
    cases two with
    | found same => exact recognizes_unique first same
    | passed missing _ => cases recognizes_unique first missing
  | .passed missing later =>
    cases two with
    | found first => cases recognizes_unique missing first
    | passed _ also => exact recognizesFirst_unique later also
termination_by structural one

theorem recognizesRounds_unique {body : Pattern κ} (one : RecognizesRounds body input amount)
    (two : RecognizesRounds body input other) : amount = other := by
  match one with
  | .exhausted =>
    cases two with
    | exhausted => rfl
    | fails left => exact (left rfl).elim
    | empty left => exact (left rfl).elim
    | again left => exact (left rfl).elim
  | .fails left last =>
    cases two with
    | exhausted => rfl
    | fails => rfl
    | empty => rfl
    | again _ first => cases recognizes_unique last first
  | .empty left last =>
    cases two with
    | exhausted => rfl
    | fails => rfl
    | empty => rfl
    | again _ first full =>
      cases recognizes_unique last first
      exact (Nat.lt_irrefl _ full).elim
  | .again left first full later =>
    cases two with
    | exhausted => exact (left rfl).elim
    | fails _ last => cases recognizes_unique first last
    | empty _ last =>
      cases recognizes_unique first last
      exact (Nat.lt_irrefl _ full).elim
    | again _ same _ also =>
      cases recognizes_unique first same
      rw [recognizesRounds_unique later also]
termination_by structural one

end

variable {base : Cursor} {κ : Type} {call : κ → Matcher} {body pattern : Pattern κ}

/-- What the matcher returns from a position ahead is a verdict on the units from there on. -/
def Follows (base : Cursor) (matcher : Matcher) (relation : List Char → Option Nat → Prop) : Prop :=
  ∀ start result stop, base.Ahead start → matcher.Returns (base.moveTo start) result stop →
    relation (base.moveTo start).rest (result.map fun _ => stop - start)

theorem follows_unit (inside : base.Inside) :
    Follows base (unit predicate observer)
      (@Recognizes κ (.unit label predicate observer)) := by
  intro start result stop ahead ran
  have here := Cursor.inside_moveTo inside ahead
  rcases returns_unit.mp ran with ⟨drained, rfl, rfl⟩ | ⟨next, left, found, later⟩
  · rw [(Cursor.remaining_eq_zero_iff here).mp drained]
    exact .unit_missing
  · cases units : (base.moveTo start).rest with
    | nil => exact (left ((Cursor.remaining_eq_zero_iff here).mpr units)).elim
    | cons unit others =>
      rw [Cursor.unitAt_zero here units] at found
      cases found
      rcases later with ⟨rejected, rfl, rfl⟩ | ⟨accepted, _, rfl, rfl⟩
      · exact .unit_rejected rejected
      · have one : (base.moveTo start).position + 1 - start = 1 := Nat.add_sub_cancel_left start 1
        simp only [Option.map_some, one]
        exact .unit_accepted accepted

theorem follows_literal (inside : base.Inside) :
    Follows base (literal text observer) (@Recognizes κ (.literal text observer)) := by
  intro start result stop ahead ran
  have stands := Cursor.startsWith_iff (Cursor.inside_moveTo inside ahead) text
  rcases returns_literal.mp ran with ⟨differs, rfl, rfl⟩ | ⟨found, _, rfl, rfl⟩
  · refine .literal_differs fun holds => ?_
    rw [stands.mpr holds] at differs
    cases differs
  · have amount : (base.moveTo start).position + text.length - start = text.length :=
      Nat.add_sub_cancel_left start _
    simp only [Option.map_some, amount]
    exact .literal_stands (stands.mp found)

private theorem amount_add (forward : (base.moveTo start).Ahead middle)
    (later : (base.moveTo middle).Ahead stop) :
    middle - start + (stop - middle) = stop - start := by
  have first : start ≤ middle := forward.1
  have second : middle ≤ stop := later.1
  omega

/-- What is left after a match is what was there without the units it consumed. -/
private theorem rest_after (inside : base.Inside) (ahead : base.Ahead start)
    (forward : (base.moveTo start).Ahead stop) :
    (base.moveTo stop).rest = (base.moveTo start).rest.drop (stop - start) :=
  Cursor.rest_moveTo (Cursor.inside_moveTo inside ahead) forward

private theorem allMatch_follows {parts : List (Pattern κ)}
    (inside : base.Inside) (keep : ∀ part ∈ parts, Keeps base (part.run call))
    (follow : ∀ part ∈ parts, Follows base (part.run call) (Recognizes part))
    (ahead : base.Ahead start)
    (ran : (allMatch (parts.map (Pattern.run call))).Returns (base.moveTo start) all stop) :
    RecognizesAll parts (base.moveTo start).rest (if all then some (stop - start) else none) := by
  induction parts generalizing start with
  | nil =>
    obtain ⟨rfl, rfl⟩ := returns_allMatch_nil.mp ran
    rw [Nat.sub_self]
    exact .nil
  | cons part others ih =>
    rcases returns_allMatch_cons.mp ran with ⟨missed, rfl⟩ | ⟨span, middle, matched, later⟩
    · exact .fails (follow part List.mem_cons_self start _ _ ahead missed)
    · have first := follow part List.mem_cons_self start _ _ ahead matched
      have forward := (keep part List.mem_cons_self start _ _ ahead matched).2
      have middleAhead := ahead_trans ahead forward
      have othersKeep := fun other member => keep other (List.mem_cons_of_mem part member)
      have othersFollow := fun other member => follow other (List.mem_cons_of_mem part member)
      have recognized := ih othersKeep othersFollow middleAhead later
      rw [rest_after inside ahead forward] at recognized
      have chained := RecognizesAll.cons first recognized
      cases all with
      | false => exact chained
      | true =>
        have further := allMatch_ahead (List.forall_mem_map.mpr othersKeep) middleAhead later
        simp only [↓reduceIte, Option.map_some, amount_add forward further] at chained
        exact chained

theorem follows_seq {parts : List (Pattern κ)} (inside : base.Inside)
    (keep : ∀ part ∈ parts, Keeps base (part.run call))
    (follow : ∀ part ∈ parts, Follows base (part.run call) (Recognizes part)) :
    Follows base (seq (parts.map (Pattern.run call)) observer) (RecognizesAll parts) := by
  intro start result stop ahead ran
  obtain ⟨all, middle, row, ended⟩ := returns_seq.mp ran
  have recognized := allMatch_follows inside keep follow ahead row
  rcases ended with ⟨rfl, _, rfl, rfl⟩ | ⟨rfl, _, rfl, rfl⟩
  · exact recognized
  · exact recognized

private theorem firstMatch_follows {alternatives : List (Pattern κ)}
    (follow : ∀ part ∈ alternatives, Follows base (part.run call) (Recognizes part))
    (ahead : base.Ahead start)
    (ran : (firstMatch start (alternatives.map (Pattern.run call))).Returns
      (base.moveTo start) result stop) :
    RecognizesFirst alternatives (base.moveTo start).rest (result.map fun _ => stop - start) := by
  induction alternatives with
  | nil =>
    obtain ⟨rfl, rfl⟩ := returns_firstMatch_nil.mp ran
    exact .nil
  | cons part others ih =>
    rcases returns_firstMatch_cons.mp ran with ⟨span, matched, rfl⟩ | ⟨middle, missed, _, later⟩
    · exact .found (follow part List.mem_cons_self start _ _ ahead matched)
    · refine .passed (follow part List.mem_cons_self start _ _ ahead missed) ?_
      exact ih (fun other member => follow other (List.mem_cons_of_mem part member)) later

theorem follows_choice {alternatives : List (Pattern κ)}
    (follow : ∀ part ∈ alternatives, Follows base (part.run call) (Recognizes part)) :
    Follows base (choice (alternatives.map (Pattern.run call)) observer)
      (RecognizesFirst alternatives) := by
  intro start result stop ahead ran
  exact firstMatch_follows follow ahead (returns_choice.mp ran).1

/-- A round that another follows consumed something. -/
private theorem round_again (inside : base.Inside)
    (follow : Follows base (body.run call) (Recognizes body)) (ahead : base.Ahead start)
    (ran : (round label (body.run call)).Returns (base.moveTo start) true stop) :
    (base.moveTo start).rest ≠ [] ∧
      Recognizes body (base.moveTo start).rest (some (stop - start)) := by
  have drained := Cursor.remaining_eq_zero_iff (Cursor.inside_moveTo inside ahead)
  obtain ⟨left, span, length, matched, _, _⟩ := returns_round_true.mp ran
  exact ⟨fun ended => left (drained.mpr ended), follow start _ _ ahead matched⟩

/-- The last round finds nothing to go on with. -/
private theorem round_last (inside : base.Inside)
    (keep : Keeps base (body.run call)) (follow : Follows base (body.run call) (Recognizes body))
    (ahead : base.Ahead start)
    (ran : (round label (body.run call)).Returns (base.moveTo start) false stop) :
    RecognizesRounds body (base.moveTo start).rest 0 := by
  have drained := Cursor.remaining_eq_zero_iff (Cursor.inside_moveTo inside ahead)
  have stay : stop = start := round_stays keep ahead ran
  rcases returns_round_false.mp ran with ⟨none_left, _⟩ | ⟨left, missed | ⟨span, matched, _⟩⟩
  · rw [drained.mp none_left]
    exact .exhausted
  · have last := follow start _ _ ahead missed
    exact .fails (fun ended => left (drained.mpr ended)) last
  · have last := follow start _ _ ahead matched
    rw [Option.map_some, stay, Nat.sub_self] at last
    exact .empty (fun ended => left (drained.mpr ended)) last

private theorem rounds_follow (inside : base.Inside)
    (keep : Keeps base (body.run call)) (follow : Follows base (body.run call) (Recognizes body))
    (ahead : base.Ahead start)
    (ran : (rounds label (body.run call) bound).Returns (base.moveTo start) value stop) :
    RecognizesRounds body (base.moveTo start).rest (stop - start) := by
  induction bound generalizing start with
  | zero =>
    obtain ⟨none_left, rfl⟩ := returns_rounds_zero.mp ran
    rw [(Cursor.remaining_eq_zero_iff (Cursor.inside_moveTo inside ahead)).mp none_left]
    rw [Nat.sub_self]
    exact .exhausted
  | succ bound ih =>
    rcases returns_rounds_succ.mp ran with last | ⟨middle, first, later⟩
    · rw [round_stays keep ahead last, Nat.sub_self]
      exact round_last inside keep follow ahead last
    · obtain ⟨left, matched⟩ := round_again inside follow ahead first
      have forward := round_ahead keep ahead first
      have middleAhead := ahead_trans ahead forward
      have recognized := ih middleAhead later
      rw [rest_after inside ahead forward] at recognized
      have more : 0 < middle - start := Nat.sub_pos_of_lt (round_forward keep ahead first)
      rw [← amount_add forward (rounds_ahead keep bound middleAhead later)]
      exact .again left matched more recognized

theorem follows_star (inside : base.Inside)
    (keep : Keeps base (body.run call)) (follow : Follows base (body.run call) (Recognizes body)) :
    Follows base (star label (body.run call) observer) (Recognizes (.star body observer)) := by
  intro start result stop ahead ran
  obtain ⟨repeated, _, rfl⟩ := returns_star.mp ran
  exact .star (rounds_follow inside keep follow ahead (returns_exhaust.mp repeated))

theorem follows_plus (inside : base.Inside)
    (keep : Keeps base (body.run call)) (follow : Follows base (body.run call) (Recognizes body)) :
    Follows base (plus label (body.run call) observer) (Recognizes (.plus body observer)) := by
  intro start result stop ahead ran
  rcases returns_plus.mp ran with ⟨missed, rfl⟩ | ⟨span, middle, matched, later, _, rfl⟩
  · exact .plus_fails (follow start _ _ ahead missed)
  · have first := follow start _ _ ahead matched
    have forward := (keep start _ _ ahead matched).2
    have middleAhead := ahead_trans ahead forward
    have repeated := rounds_follow inside keep follow middleAhead (returns_exhaust.mp later)
    rw [rest_after inside ahead forward] at repeated
    have further := rounds_ahead keep _ middleAhead (returns_exhaust.mp later)
    rw [Option.map_some, ← amount_add forward further]
    exact .plus first repeated

theorem follows_optional
    (keep : Keeps base (body.run call)) (follow : Follows base (body.run call) (Recognizes body)) :
    Follows base (Matcher.optional (body.run call) observer)
      (Recognizes (.optional body observer)) := by
  intro start result stop ahead ran
  obtain ⟨_, matched, first, rfl⟩ := returns_optional.mp ran
  have recognized := follow start _ _ ahead first
  cases matched with
  | some span => exact .optional recognized
  | none =>
    cases keep start _ _ ahead first
    rw [Option.map_some, Cursor.moveTo_position, Nat.sub_self]
    exact .optional_empty recognized

/-- Nothing but patterns: no callables, predicates that always answer, observers that never stop a
run. -/
def plainParts : Demand κ where
  predicate predicate := ∀ unit, ∃ answer, predicate.test unit = .ok answer
  observer := Observer.Quiet
  callable _ := False
  inert := False

private theorem plainParts_keep
    (met : pattern.Meets plainParts) : Keeps base (pattern.run call) :=
  keeps_run met fun _ impossible => impossible.elim

/-- Whatever a pattern returns is a verdict of the rules. -/
theorem run_follows (inside : base.Inside)
    (met : pattern.Meets plainParts) : Follows base (pattern.run call) (Recognizes pattern) := by
  induction met with
  | unit => exact follows_unit inside
  | literal => exact follows_literal inside
  | seq each _ ih =>
    rw [Pattern.run, Pattern.runEach_eq_map]
    intro start result stop ahead ran
    exact .seq (follows_seq inside (fun part member => plainParts_keep (each part member)) ih
      start result stop ahead ran)
  | choice each _ ih =>
    rw [Pattern.run, Pattern.runEach_eq_map]
    intro start result stop ahead ran
    exact .choice (follows_choice ih start result stop ahead ran)
  | star inner _ ih => exact follows_star inside (plainParts_keep inner) ih
  | plus inner _ ih => exact follows_plus inside (plainParts_keep inner) ih
  | @times body observer count inner _ ih =>
    rw [Pattern.run, times_eq_seq, ← List.map_replicate]
    intro start result stop ahead ran
    refine .times (follows_seq inside ?_ ?_ start result stop ahead ran)
    · intro part member
      rw [List.eq_of_mem_replicate member]
      exact plainParts_keep inner
    · intro part member
      rw [List.eq_of_mem_replicate member]
      exact ih
  | optional inner _ ih => exact follows_optional (plainParts_keep inner) ih
  | observed _ _ ih =>
    intro start result stop ahead ran
    exact .observed (ih start result stop ahead (returns_observed.mp ran).1)
  | labelled _ ih =>
    intro start result stop ahead ran
    exact .labelled (ih start result stop ahead ran)
  | callable impossible => exact impossible.elim
  | inert impossible => exact impossible.elim

/-- A pattern of plain parts always returns. -/
theorem run_returns (inside : base.Inside)
    (short : (base.remaining : Int) ≤ Span.maxLength) (met : pattern.Meets plainParts) :
    ∃ result stop, (pattern.run call).Returns base result stop := by
  have within : pattern.Meets (partsWithin (fun _ => False) base call) := by
    refine met.mono ?_ ?_ ?_ ?_
    · exact fun _ answers => Predicate.faultsWithin_of_answers answers _
    · exact fun _ quiet => Observer.faultsWithin_of_quiet quiet fun _ => False
    · intro _ impossible
      exact impossible.elim
    · intro impossible
      exact impossible.elim
  have stops := run_stopsWithin ⟨inside.1, .inr inside, .inr short⟩ within
  refine (returns_or_faults (pattern.run call) base).resolve_right ?_
  rintro ⟨fault, stopped⟩
  exact stops base.position (Cursor.ahead_self inside.1) fault stopped

/-- The rules have a verdict on the units that remain, and it is the one the run gives. -/
theorem run_verdict (inside : base.Inside)
    (short : (base.remaining : Int) ≤ Span.maxLength) (met : pattern.Meets plainParts) :
    ∃ verdict, Recognizes pattern base.rest verdict ∧
      (pattern.run call).Returns base
        (verdict.map fun amount => ⟨base.position, (base.position + amount : Nat)⟩)
        (base.position + verdict.getD 0) := by
  have here := Cursor.ahead_self inside.1
  have keep : Keeps base (pattern.run call) := plainParts_keep met
  obtain ⟨result, stop, ran⟩ : ∃ result stop, (pattern.run call).Returns base result stop :=
    run_returns inside short met
  have recognized := run_follows inside met base.position result stop here ran
  have fulfilled := keep base.position result stop here ran
  refine ⟨_, recognized, ?_⟩
  cases result with
  | none =>
    cases fulfilled
    exact ran
  | some span =>
    obtain ⟨rfl, ahead⟩ := fulfilled
    have amount : base.position + (stop - base.position) = stop := Nat.add_sub_cancel' ahead.1
    simp only [Option.map_some, Option.getD_some, amount]
    exact ran

/-- On every window that lies in its buffer, a pattern of plain parts returns, and what it returns
is the verdict of the rules on the units that remain: the span of so many of them, the cursor moved
by as many, when the rules have them consumed, and no span, the cursor not moved, when the rules
have the pattern fail. No buffer has more units than a length can count. -/
theorem run_iff_recognizes (library : Library) (pattern : Pattern Callable) (cursor : Cursor)
    (inside : cursor.Inside) (short : (cursor.remaining : Int) ≤ Span.maxLength)
    (met : pattern.Meets plainParts) :
    (∀ span stop, (library.run pattern).Returns cursor (some span) stop ↔
      ∃ amount, Recognizes pattern cursor.rest (some amount) ∧
        span = ⟨cursor.position, (cursor.position + amount : Nat)⟩ ∧
        stop = cursor.position + amount) ∧
    (∀ stop, (library.run pattern).Returns cursor none stop ↔
      Recognizes pattern cursor.rest none ∧ stop = cursor.position) ∧
    ∃ result stop, (library.run pattern).Returns cursor result stop := by
  obtain ⟨verdict, recognized, ran⟩ : ∃ verdict, Recognizes pattern cursor.rest verdict ∧
      (library.run pattern).Returns cursor
        (verdict.map fun amount => ⟨cursor.position, (cursor.position + amount : Nat)⟩)
        (cursor.position + verdict.getD 0) := run_verdict inside short met
  refine ⟨?_, ?_, _, _, ran⟩
  · intro span stop
    constructor
    · intro also
      obtain ⟨given, rfl⟩ := returns_unique also ran
      cases verdict with
      | none => cases given
      | some amount =>
        cases given
        exact ⟨amount, recognized, rfl, rfl⟩
    · rintro ⟨amount, also, rfl, rfl⟩
      cases recognizes_unique also recognized
      exact ran
  · intro stop
    constructor
    · intro also
      obtain ⟨given, rfl⟩ := returns_unique also ran
      cases verdict with
      | none => exact ⟨recognized, rfl⟩
      | some amount => cases given
    · rintro ⟨also, rfl⟩
      cases recognizes_unique also recognized
      exact ran

/-- A mark of three letters, or else anything up to a semicolon. -/
def marked : Pattern Callable :=
  .choice [.seq [.literal ['a', 'b'] .silent, .character 'c' (.record "mark")] .silent,
    .plus (.noneOf [';'] .silent) (.collect "names")] .silent

/-- Octets of which only those in the middle are in the window. -/
def markedOctets : Cursor :=
  ⟨.octets .view [97, 97, 98, 100, 59, 99], 0, 1, 5⟩

private theorem marked_plain : marked.Meets plainParts := by
  have answers : ∀ (test : Char → Bool) unit, ∃ answer,
      (Predicate.ofBool test).test unit = .ok answer := fun test unit => ⟨test unit, rfl⟩
  refine .choice ?_ trivial
  intro part member
  simp only [List.mem_cons, List.not_mem_nil, or_false] at member
  rcases member with rfl | rfl
  · refine .seq ?_ trivial
    intro part member
    simp only [List.mem_cons, List.not_mem_nil, or_false] at member
    rcases member with rfl | rfl
    · exact .literal trivial
    · exact .unit (answers _) trivial
  · exact .plus (.unit (answers _) trivial) trivial

/-- The first alternative is given up after two units; the second consumes three. -/
theorem marked_recognizes_three :
    markedOctets.Inside ∧ marked.Meets plainParts ∧
    (Library.run [] marked).Returns markedOctets (some ⟨1, 4⟩) 4 ∧
    Recognizes marked ['a', 'b', 'd', ';'] (some 3) := by
  have inside : markedOctets.Inside := by decide
  have short : (markedOctets.remaining : Int) ≤ Span.maxLength := by decide
  have ran : (Library.run [] marked).Returns markedOctets (some ⟨1, 4⟩) 4 := ⟨by rfl, by rfl⟩
  obtain ⟨matched, _, _⟩ := run_iff_recognizes [] marked markedOctets inside short marked_plain
  obtain ⟨amount, recognized, _, moved⟩ := (matched _ _).mp ran
  have three : amount = 3 := by
    change 4 = 1 + amount at moved
    omega
  rw [three] at recognized
  exact ⟨inside, marked_plain, ran, recognized⟩

end SpanLexer.Recognition
