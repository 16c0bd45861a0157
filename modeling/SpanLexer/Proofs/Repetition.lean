import SpanLexer.Proofs.Safety
import SpanLexer.Proofs.Telling
import SpanLexer.Proofs.Termination

/-!
The course of a repetition.

A repetition runs its body from where it stands, again and again. As long as the body matches
something, this leads along a chain of positions, each further ahead than the one before. The chain
ends in one of three ways: no unit remains, and the body is not run; the body misses; or it matches
the empty span, which leaves a warning. When the body keeps the contract and returns, there is
exactly one such course, and it is the whole of the repetition: span, position, events, warning.
-/
namespace SpanLexer.Repetition
open Scan Matcher Contract Faults Termination

/-- Why a repetition stops. -/
inductive Ending where
  /-- No unit remains. -/
  | drained
  /-- The body misses. -/
  | missed
  /-- The body matches the empty span. -/
  | empty
  deriving DecidableEq

/-- Run at each of the positions, the body matches up to the next one, which is further ahead, and
from the last one up to the stop. -/
inductive Chain (body : Matcher) (base : Cursor) : Nat → List Nat → Nat → Prop where
  | nil : Chain body base start [] start
  | cons {start middle : Nat}
      (matched : body.Returns (base.moveTo start) (some ⟨start, middle⟩) middle)
      (forward : start < middle) (later : Chain body base middle applied stop) :
      Chain body base start (start :: applied) stop

/-- What there is to find at the end of a chain. -/
inductive Ends (body : Matcher) (base : Cursor) (stop : Nat) : Ending → Prop where
  | drained (none_left : (base.moveTo stop).remaining = 0) : Ends body base stop .drained
  | missed (left : (base.moveTo stop).remaining ≠ 0)
      (ran : body.Returns (base.moveTo stop) none stop) : Ends body base stop .missed
  | empty (left : (base.moveTo stop).remaining ≠ 0)
      (ran : body.Returns (base.moveTo stop) (some ⟨stop, stop⟩) stop) : Ends body base stop .empty

/-- Where the body matched something, where that led to, and why it ended there. -/
structure Course where
  applied : List Nat
  stop : Nat
  ending : Ending
  deriving DecidableEq

/-- From the position, the body takes the course. -/
structure Taken (body : Matcher) (base : Cursor) (start : Nat) (course : Course) : Prop where
  chain : Chain body base start course.applied course.stop
  ends : Ends body base course.stop course.ending

namespace Course

/-- All positions at which the body is run: not at the end, if no unit remains there. -/
def calls (course : Course) : List Nat :=
  match course.ending with
  | .drained => course.applied
  | .missed => course.applied ++ [course.stop]
  | .empty => course.applied ++ [course.stop]

/-- What the repetition itself has to warn of. -/
def warnings (label : String) (course : Course) : Trace :=
  match course.ending with
  | .empty => [.emptyRound label]
  | _ => []

/-- All that happens in the runs of the body, in order, and the warning. -/
def events (label : String) (body : Matcher) (base : Cursor) (course : Course) : Trace :=
  course.calls.flatMap (fun here => (body.run (base.moveTo here)).trace) ++ course.warnings label

end Course

variable {base : Cursor}

/-- A span ahead of the cursor has a length, as long as all that remains has one. -/
private theorem length?_ahead (short : (base.remaining : Int) ≤ Span.maxLength)
    (low : base.position ≤ start) (forward : start ≤ stop) (high : stop ≤ base.limit) :
    (⟨(start : Nat), (stop : Nat)⟩ : Span).length? = .ok (stop - start) := by
  simp only [Cursor.remaining] at short
  rw [length?_forward forward, if_neg (by omega)]

/-- A round whose body matches something is followed by another. -/
theorem round_run_again (short : (base.remaining : Int) ≤ Span.maxLength)
    (low : base.position ≤ start) (forward : start < stop) (high : stop ≤ base.limit)
    (matched : body.Returns (base.moveTo start) (some ⟨start, stop⟩) stop) (label : String) :
    (round label body).run (base.moveTo start) =
      ⟨.ok true, stop, (body.run (base.moveTo start)).trace⟩ := by
  have left : (base.moveTo start).remaining ≠ 0 := by
    rw [Cursor.remaining_moveTo]
    omega
  have measured := length?_ahead short low (Nat.le_of_lt forward) high
  have full : stop - start ≠ 0 := by omega
  change (if (base.moveTo start).remaining = 0 then pure false else body >>= _ :
    Scan Bool).run (base.moveTo start) = _
  rw [if_neg left, run_bind_of_ok (run_of_returns matched)]
  simp [run_bind, lift, measured, full]

/-- The round at the end of a chain is the last one. -/
theorem round_run_last (ends : Ends body base stop ending) (label : String) :
    (round label body).run (base.moveTo stop) =
      ⟨.ok false, stop, Course.events label body base ⟨[], stop, ending⟩⟩ := by
  cases ends with
  | drained none_left => exact round_run_end none_left
  | missed left ran =>
    change (if (base.moveTo stop).remaining = 0 then pure false else body >>= _ :
      Scan Bool).run (base.moveTo stop) = _
    rw [if_neg left, run_bind_of_ok (run_of_returns ran)]
    simp [Course.events, Course.calls, Course.warnings]
  | empty left ran =>
    have measured : (⟨(stop : Nat), (stop : Nat)⟩ : Span).length? = .ok 0 := by
      simp [Span.length?, Span.maxLength]
    have warned : (lift (⟨(stop : Nat), (stop : Nat)⟩ : Span).length? >>= fun length =>
        if length = 0 then (do emit (.emptyRound label); return false) else return true :
        Scan Bool).run (base.moveTo stop) = ⟨.ok false, stop, [.emptyRound label]⟩ := by
      rw [measured]
      rfl
    change (if (base.moveTo stop).remaining = 0 then pure false else body >>= _ :
      Scan Bool).run (base.moveTo stop) = _
    rw [if_neg left, run_bind_of_ok (run_of_returns ran), Cursor.moveTo_moveTo, warned]
    simp [Course.events, Course.calls, Course.warnings]

/-- What happens in a chain happens at its first position and then in the rest of it. -/
theorem events_cons (label : String) (body : Matcher) (start : Nat) (applied : List Nat)
    (stop : Nat) (ending : Ending) :
    Course.events label body base ⟨start :: applied, stop, ending⟩ =
      (body.run (base.moveTo start)).trace ++
        Course.events label body base ⟨applied, stop, ending⟩ := by
  cases ending <;> simp [Course.events, Course.calls, Course.warnings]

theorem chain_le (chain : Chain body base start applied stop) : start ≤ stop := by
  induction chain with
  | nil => exact Nat.le_refl _
  | cons _ forward _ ih => exact Nat.le_trans (Nat.le_of_lt forward) ih

/-- The rounds of a repetition are its course, with a round for each unit that remains. -/
theorem rounds_run_of_chain (short : (base.remaining : Int) ≤ Span.maxLength)
    (chain : Chain body base start applied stop) (ends : Ends body base stop ending)
    (low : base.position ≤ start) (high : stop ≤ base.limit)
    (enough : base.limit - start ≤ bound) (label : String) :
    (rounds label body bound).run (base.moveTo start) =
      ⟨.ok (), stop, Course.events label body base ⟨applied, stop, ending⟩⟩ := by
  induction chain generalizing bound with
  | @nil start =>
    cases bound with
    | zero =>
      have drained : (base.moveTo start).remaining = 0 := Nat.eq_zero_of_le_zero enough
      cases ends with
      | drained => exact rounds_run_end drained 0
      | missed left _ => exact (left drained).elim
      | empty left _ => exact (left drained).elim
    | succ bound =>
      rw [rounds_succ, run_bind_of_ok (round_run_last ends label)]
      simp
  | @cons applied stop start middle matched forward later ih =>
    have further := chain_le later
    cases bound with
    | zero => omega
    | succ bound =>
      have rest : (rounds label body bound).run (base.moveTo middle) = _ :=
        ih ends (by omega) high (by omega)
      rw [rounds_succ, run_bind_of_ok (round_run_again short low forward (by omega) matched label)]
      simp only [↓reduceIte, Cursor.moveTo_moveTo, rest, events_cons]

theorem exhaust_run_of_taken (valid : base.Valid)
    (short : (base.remaining : Int) ≤ Span.maxLength) (taken : Taken body base start course)
    (low : base.position ≤ start) (high : course.stop ≤ base.limit) (label : String) :
    (exhaust label body).run (base.moveTo start) =
      ⟨.ok (), course.stop, course.events label body base⟩ := by
  have enough : base.limit - start ≤ base.limit - base.origin :=
    Nat.sub_le_sub_left (Nat.le_trans valid.1 low) _
  exact rounds_run_of_chain short taken.chain taken.ends low high enough label

/-- Zero or more times: the course and then the observer. -/
theorem star_run_of_taken (valid : base.Valid)
    (short : (base.remaining : Int) ≤ Span.maxLength)
    (taken : Taken body base base.position course) (high : course.stop ≤ base.limit)
    (label : String) (observer : Observer) :
    (star label body observer).run base =
      ⟨observer.reaction.map fun _ => some ⟨base.position, course.stop⟩, course.stop,
        course.events label body base ++
          observer.notes (base.moveTo course.stop) ⟨base.position, course.stop⟩⟩ := by
  have repeated := exhaust_run_of_taken valid short taken (Nat.le_refl _) high label
  change (exhaust label body >>= fun _ => conclude base.position observer).run
    (base.moveTo base.position) = _
  rw [run_bind_of_ok repeated, Cursor.moveTo_moveTo, run_conclude]
  rfl

/-- One or more times: a match, whatever it matches, the course from there, and then the
observer. -/
theorem plus_run_of_taken (valid : base.Valid)
    (short : (base.remaining : Int) ≤ Span.maxLength)
    (first : body.Returns base (some span) start) (taken : Taken body base start course)
    (low : base.position ≤ start) (high : course.stop ≤ base.limit)
    (label : String) (observer : Observer) :
    (plus label body observer).run base =
      ⟨observer.reaction.map fun _ => some ⟨base.position, course.stop⟩, course.stop,
        (body.run base).trace ++ (course.events label body base ++
          observer.notes (base.moveTo course.stop) ⟨base.position, course.stop⟩)⟩ := by
  have repeated := exhaust_run_of_taken valid short taken low high label
  change (body >>= _).run base = _
  rw [run_bind_of_ok (run_of_returns first)]
  simp only [run_bind_of_ok repeated, Cursor.moveTo_moveTo, run_conclude, Cursor.moveTo_position]

/-- Where the first match is missing, there is nothing to repeat. -/
theorem plus_run_miss (missed : body.Returns base none stop) (label : String)
    (observer : Observer) :
    (plus label body observer).run base = ⟨.ok none, stop, (body.run base).trace⟩ := by
  change (body >>= _).run base = _
  rw [run_bind_of_ok (run_of_returns missed)]
  simp

theorem chain_ahead (keep : Keeps base body) (ahead : base.Ahead start)
    (chain : Chain body base start applied stop) : base.Ahead stop := by
  induction chain with
  | nil => exact ahead
  | cons matched _ _ ih => exact ih (ahead_trans ahead (keep _ _ _ ahead matched).2)

/-- Where a body keeps the contract and returns, it takes some course. -/
theorem taken_exists (keep : Keeps base body)
    (returns : ∀ start, base.Ahead start →
      ∃ result stop, body.Returns (base.moveTo start) result stop)
    (ahead : base.Ahead start) : ∃ course, Taken body base start course := by
  -- The induction is on the units that remain, of which every match leaves fewer.
  obtain ⟨gap, enough⟩ : ∃ gap, base.limit - start ≤ gap := ⟨_, Nat.le_refl _⟩
  induction gap generalizing start with
  | zero => exact ⟨⟨[], start, .drained⟩, .nil, .drained (Nat.eq_zero_of_le_zero enough)⟩
  | succ gap ih =>
    by_cases none_left : (base.moveTo start).remaining = 0
    · exact ⟨⟨[], start, .drained⟩, .nil, .drained none_left⟩
    · obtain ⟨result, stop, ran⟩ := returns start ahead
      have kept := keep start result stop ahead ran
      cases result with
      | none =>
        cases kept
        exact ⟨⟨[], start, .missed⟩, .nil, .missed none_left ran⟩
      | some span =>
        obtain ⟨rfl, forward⟩ := kept
        have low : start ≤ stop := forward.1
        by_cases same : stop = start
        · subst same
          exact ⟨⟨[], stop, .empty⟩, .nil, .empty none_left ran⟩
        · obtain ⟨⟨applied, finish, ending⟩, chain, ends⟩ :=
            ih (ahead_trans ahead forward) (by omega)
          exact ⟨⟨start :: applied, finish, ending⟩, .cons ran (by omega) chain, ends⟩

/-- Where a chain ends, the body does not match anything further. -/
theorem ends_unmatched (keep : Keeps base body) (ahead : base.Ahead start)
    (ends : Ends body base start ending)
    (matched : body.Returns (base.moveTo start) (some ⟨start, (middle : Nat)⟩) middle) :
    middle = start := by
  cases ends with
  | drained none_left =>
    obtain ⟨_, low, high⟩ := keep _ _ _ ahead matched
    simp only [Cursor.moveTo_position, Cursor.moveTo_limit, Cursor.remaining_moveTo] at *
    omega
  | missed _ ran => cases (returns_unique ran matched).1
  | empty _ ran => exact (returns_unique matched ran).2

theorem ends_unique (one : Ends body base stop ending) (two : Ends body base stop other) :
    ending = other := by
  cases one with
  | drained none_left =>
    cases two with
    | drained => rfl
    | missed left => exact (left none_left).elim
    | empty left => exact (left none_left).elim
  | missed left ran =>
    cases two with
    | drained none_left => exact (left none_left).elim
    | missed => rfl
    | empty _ ran' => cases (returns_unique ran ran').1
  | empty left ran =>
    cases two with
    | drained none_left => exact (left none_left).elim
    | missed _ ran' => cases (returns_unique ran ran').1
    | empty => rfl

/-- No body takes two courses. -/
theorem taken_unique (keep : Keeps base body) (ahead : base.Ahead start)
    (one : Taken body base start course) (two : Taken body base start other) :
    other = course := by
  obtain ⟨applied, stop, ending⟩ := course
  obtain ⟨applied', stop', ending'⟩ := other
  obtain ⟨chain, ends⟩ := one
  obtain ⟨chain', ends'⟩ := two
  simp only at chain ends chain' ends'
  induction chain generalizing applied' with
  | nil =>
    cases chain' with
    | nil => rw [ends_unique ends ends']
    | cons matched forward _ =>
      exact absurd (ends_unmatched keep ahead ends matched) (Nat.ne_of_gt forward)
  | cons matched forward later ih =>
    cases chain' with
    | nil => exact absurd (ends_unmatched keep ahead ends' matched) (Nat.ne_of_gt forward)
    | cons matched' _ later' =>
      obtain ⟨_, rfl⟩ := returns_unique matched matched'
      have next := ahead_trans ahead (keep _ _ _ ahead matched).2
      cases ih next _ ends later'
      rfl

/-- The two matchers have the same runs at all of the positions. -/
def SameAt (base : Cursor) (positions : List Nat) (one two : Matcher) : Prop :=
  ∀ here ∈ positions, one.run (base.moveTo here) = two.run (base.moveTo here)

theorem SameAt.mono (same : SameAt base positions one two) (few : fewer ⊆ positions) :
    SameAt base fewer one two :=
  fun here member => same here (few member)

theorem SameAt.returns (same : SameAt base positions one two) (member : here ∈ positions)
    (ran : two.Returns (base.moveTo here) result stop) :
    one.Returns (base.moveTo here) result stop := by
  rw [Returns, same here member]
  exact ran

theorem chain_congr (same : SameAt base applied twin body)
    (chain : Chain body base start applied stop) : Chain twin base start applied stop := by
  induction chain with
  | nil => exact .nil
  | cons matched forward _ ih =>
    exact .cons (same.returns List.mem_cons_self matched) forward
      (ih (same.mono (List.subset_cons_self _ _)))

/-- A repetition knows its body only by its runs along the course. -/
theorem taken_congr (same : SameAt base course.calls twin body)
    (taken : Taken body base start course) : Taken twin base start course := by
  obtain ⟨applied, stop, ending⟩ := course
  obtain ⟨chain, ends⟩ := taken
  cases ends with
  | drained none_left => exact ⟨chain_congr same chain, .drained none_left⟩
  | missed left ran =>
    have before := chain_congr (same.mono (List.subset_append_left _ _)) chain
    exact ⟨before, .missed left (same.returns List.mem_concat_self ran)⟩
  | empty left ran =>
    have before := chain_congr (same.mono (List.subset_append_left _ _)) chain
    exact ⟨before, .empty left (same.returns List.mem_concat_self ran)⟩

theorem events_congr {course : Course} (same : SameAt base course.calls twin body)
    (label : String) :
    course.events label twin base = course.events label body base := by
  have traces : course.calls.flatMap (fun here => (twin.run (base.moveTo here)).trace) =
      course.calls.flatMap fun here => (body.run (base.moveTo here)).trace :=
    List.flatMap_congr fun here member => by rw [same here member]
  rw [Course.events, Course.events, traces]

/-- Let the body of a repetition keep the contract and return, and let its observer not stop the
run. From the cursor the body takes exactly one course. The repetition matches from where it was
started up to the end of that course. What happens is what happens in the runs of the body along
the course, in order, then the warning, if the body ended it with an empty match, and last the
observer is told the span. Only along the course is the body run: any other with the same runs there
makes for the same repetition.

A repetition that has to match once misses exactly when the body does, and then it is that run of
the body. Otherwise all of this holds of the course from where the first match ends, whether that
match is empty or not. No buffer has more units than a length can count. -/
theorem repetition_takes_one_course (call : κ → Matcher) (body : Pattern κ) (observer : Observer)
    (cursor : Cursor) (valid : cursor.Valid)
    (short : (cursor.remaining : Int) ≤ Span.maxLength) (quiet : observer.Quiet)
    (keep : Keeps cursor (body.run call))
    (returns : ∀ start, cursor.Ahead start →
      ∃ result stop, (body.run call).Returns (cursor.moveTo start) result stop) :
    (∃ course, Taken (body.run call) cursor cursor.position course ∧
      (∀ other, Taken (body.run call) cursor cursor.position other → other = course) ∧
      ((Pattern.star body observer).run call).run cursor =
        ⟨.ok (some ⟨cursor.position, course.stop⟩), course.stop,
          course.events body.label (body.run call) cursor ++
            observer.notes (cursor.moveTo course.stop) ⟨cursor.position, course.stop⟩⟩ ∧
      ∀ twin, SameAt cursor course.calls twin (body.run call) →
        (star body.label twin observer).run cursor =
          ((Pattern.star body observer).run call).run cursor) ∧
    ((∃ stop, ((Pattern.plus body observer).run call).Returns cursor none stop) ↔
      ∃ stop, (body.run call).Returns cursor none stop) ∧
    (∀ stop, (body.run call).Returns cursor none stop →
      ((Pattern.plus body observer).run call).run cursor =
        ⟨.ok none, cursor.position, ((body.run call).run cursor).trace⟩) ∧
    ∀ span middle, (body.run call).Returns cursor (some span) middle →
      ∃ course, Taken (body.run call) cursor middle course ∧
        (∀ other, Taken (body.run call) cursor middle other → other = course) ∧
        ((Pattern.plus body observer).run call).run cursor =
          ⟨.ok (some ⟨cursor.position, course.stop⟩), course.stop,
            ((body.run call).run cursor).trace ++
              (course.events body.label (body.run call) cursor ++
                observer.notes (cursor.moveTo course.stop) ⟨cursor.position, course.stop⟩)⟩ ∧
        ∀ twin, SameAt cursor (cursor.position :: course.calls) twin (body.run call) →
          (plus body.label twin observer).run cursor =
            ((Pattern.plus body observer).run call).run cursor := by
  have start := Cursor.ahead_self valid
  have goesOn := Observer.reaction_of_quiet quiet
  refine ⟨?_, ?_, ?_, ?_⟩
  · obtain ⟨course, taken⟩ := taken_exists keep returns start
    have high := (chain_ahead keep start taken.chain).2
    have whole := star_run_of_taken valid short taken high body.label observer
    rw [goesOn] at whole
    refine ⟨course, taken, fun other => taken_unique keep start taken, whole, ?_⟩
    intro twin same
    have again :=
      star_run_of_taken valid short (taken_congr same taken) high body.label observer
    rw [goesOn, events_congr same] at again
    exact again.trans whole.symm
  · constructor
    · rintro ⟨stop, missed⟩
      rcases returns_plus.mp missed with ⟨first, _⟩ | ⟨_, _, _, _, _, matched⟩
      · exact ⟨stop, first⟩
      · cases matched
    · rintro ⟨stop, missed⟩
      exact ⟨stop, returns_plus.mpr (.inl ⟨missed, rfl⟩)⟩
  · intro stop missed
    cases keep _ _ _ start missed
    exact plus_run_miss missed body.label observer
  · intro span middle first
    have ahead : cursor.Ahead middle := (keep _ _ _ start first).2
    obtain ⟨course, taken⟩ := taken_exists keep returns ahead
    have high := (chain_ahead keep ahead taken.chain).2
    have whole := plus_run_of_taken valid short first taken ahead.1 high body.label observer
    rw [goesOn] at whole
    refine ⟨course, taken, fun other => taken_unique keep ahead taken, whole, ?_⟩
    intro twin same
    have along := same.mono (List.subset_cons_self _ _)
    have here : twin.run cursor = (body.run call).run cursor := same _ List.mem_cons_self
    have again := plus_run_of_taken valid short (same.returns List.mem_cons_self first)
      (taken_congr along taken) ahead.1 high body.label observer
    rw [goesOn, events_congr along, here] at again
    exact again.trans whole.symm

/-- A letter that may be missing. -/
def maybeLetter : Pattern Empty :=
  .optional (.ofClass .letter (.record "letter")) .silent

/-- Two letters and a mark. -/
def markedText : Cursor :=
  ⟨.text ['a', 'b', ';'], 0, 0, 3⟩

theorem maybeLetter_harmless (base : Cursor) :
    maybeLetter.Meets (Safety.harmless base Empty.elim) :=
  .optional (.unit (fun _ => ⟨_, rfl⟩) trivial) trivial

/-- The letters are matched one by one, up to the mark, where the empty match leaves a warning. A
repetition that has to match once, started at the mark, goes on after its first match, although that
is empty too. -/
theorem maybeLetter_course :
    markedText.Valid ∧
    Taken (maybeLetter.run Empty.elim) markedText 0 ⟨[0, 1], 2, .empty⟩ ∧
    ((Pattern.star maybeLetter (.record "all")).run Empty.elim).run markedText =
      ⟨.ok (some ⟨0, 2⟩), 2,
        [.tested 0 'a' false, .observed (.log "letter") ⟨0, 1⟩ ['a'] 1,
          .tested 1 'b' false, .observed (.log "letter") ⟨1, 2⟩ ['b'] 2,
          .tested 2 ';' false, .emptyRound "maybe(alphabet)",
          .observed (.log "all") ⟨0, 2⟩ ['a', 'b'] 2]⟩ ∧
    ((Pattern.plus maybeLetter (.record "all")).run Empty.elim).run (markedText.moveTo 2) =
      ⟨.ok (some ⟨2, 2⟩), 2,
        [.tested 2 ';' false, .tested 2 ';' false, .emptyRound "maybe(alphabet)",
          .observed (.log "all") ⟨2, 2⟩ [] 2]⟩ := by
  have inside : markedText.Inside := by decide
  have later : (markedText.moveTo 2).Inside := by decide
  have keep (base : Cursor) : Keeps base (maybeLetter.run Empty.elim) :=
    keeps_optional (keeps_unit _ _) _
  have taken : Taken (maybeLetter.run Empty.elim) markedText 0 ⟨[0, 1], 2, .empty⟩ :=
    ⟨.cons ⟨rfl, rfl⟩ (Nat.lt_succ_self 0) (.cons ⟨rfl, rfl⟩ (Nat.lt_succ_self 1) .nil),
      .empty nofun ⟨rfl, rfl⟩⟩
  have rest : Taken (maybeLetter.run Empty.elim) (markedText.moveTo 2) 2 ⟨[], 2, .empty⟩ :=
    ⟨.nil, .empty nofun ⟨rfl, rfl⟩⟩
  obtain ⟨⟨course, _, unique, whole, _⟩, _⟩ := repetition_takes_one_course Empty.elim maybeLetter
    (.record "all") markedText inside.1 (by decide) trivial (keep _)
    fun start => Safety.returns_of_harmless inside (by decide) (maybeLetter_harmless _)
  obtain ⟨_, _, _, others⟩ := repetition_takes_one_course Empty.elim maybeLetter
    (.record "all") (markedText.moveTo 2) later.1 (by decide) trivial (keep _)
    fun start => Safety.returns_of_harmless later (by decide) (maybeLetter_harmless _)
  obtain ⟨second, _, unique', whole', _⟩ := others ⟨2, 2⟩ 2 ⟨rfl, rfl⟩
  cases unique _ taken
  cases unique' _ rest
  exact ⟨inside.1, taken, whole, whole'⟩

end SpanLexer.Repetition
