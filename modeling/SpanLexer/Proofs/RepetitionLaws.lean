import SpanLexer.Proofs.Repetition

/-!
Laws of repetition.

One or more times is once and then zero or more times: the match, the miss or the fault is the same
and so is all that happens on the way. Zero or more times can be asked for in two other ways, as one
or more times or else nothing, and as a repetition of the repetition. They run the body a different
number of times and do not warn of the same empty matches, but all of them come to the end of the
same course, where the body has nothing further to match.
-/
namespace SpanLexer.RepetitionLaws
open Scan Matcher Contract Safety Repetition

variable {base : Cursor} {inner outer : Observer}

theorem allMatch_star (label : String) (body : Matcher) :
    allMatch [star label body .silent] = exhaust label body >>= fun _ => pure true := by
  simp only [allMatch, Matcher.star, conclude, notify, bind_assoc, pure_bind]
  rfl

/-- Once and then zero or more times, with the two rows of rounds put into one. -/
theorem seq_star (label : String) (body : Matcher) (observer : Observer) :
    seq [body, star label body .silent] observer = position >>= fun start => body >>= fun
      | none => seek start >>= fun _ => pure none
      | some _ => exhaust label body >>= fun _ => conclude start observer := by
  rw [seq]
  congr 1
  funext start
  rw [allMatch, bind_assoc]
  congr 1
  funext result
  cases result with
  | none => simp
  | some span => simp [allMatch_star]

/-- One or more times is once and then zero or more times. When the body misses, the sequence goes
back and the repetition does not, so this takes a body that has not moved. -/
theorem plus_run_eq_seq_star (valid : cursor.Valid)
    (still : ∀ stop, body.Returns cursor none stop → stop = cursor.position) (label : String)
    (observer : Observer) :
    (plus label body observer).run cursor =
      (seq [body, star label body .silent] observer).run cursor := by
  rw [seq_star]
  change (body >>= _).run cursor = (body >>= _).run cursor
  apply run_bind_congr
  intro result stop ran
  cases result with
  | none =>
    obtain rfl := still stop ran
    have back : (seek cursor.position >>= fun _ => pure none : Matcher).run cursor =
        (pure none : Matcher).run cursor := run_seek_bind valid.1 valid.2
    exact back.symm
  | some span => rfl

theorem exhaust_returns (valid : base.Valid) (short : (base.remaining : Int) ≤ Span.maxLength)
    (taken : Taken body base start course) (low : base.position ≤ start)
    (high : course.stop ≤ base.limit) (label : String) :
    (exhaust label body).Returns (base.moveTo start) () course.stop := by
  have rounds := exhaust_run_of_taken valid short taken low high label
  exact ⟨by rw [rounds], by rw [rounds]⟩

/-- Zero or more times ends where the course does. -/
theorem star_returns (valid : base.Valid) (short : (base.remaining : Int) ≤ Span.maxLength)
    (taken : Taken body base start course) (low : base.position ≤ start)
    (high : course.stop ≤ base.limit) (quiet : observer.Quiet) (label : String) :
    (star label body observer).Returns (base.moveTo start) (some ⟨start, course.stop⟩)
      course.stop :=
  returns_star.mpr ⟨exhaust_returns valid short taken low high label, quiet, rfl⟩

/-- Where the body misses, the course is over before it has begun. -/
theorem stop_of_miss (taken : Taken body base start course)
    (missed : body.Returns (base.moveTo start) none stop) : course.stop = start := by
  obtain ⟨applied, finish, ending⟩ := course
  obtain ⟨chain, -⟩ := taken
  cases chain with
  | nil => rfl
  | cons matched => cases (returns_unique missed matched).1

/-- After one match the rest of the course leads to the same end. That match may be empty: then the
course is over, and the rest of it is all of it. -/
theorem taken_after (keep : Keeps base body) (ahead : base.Ahead start)
    (taken : Taken body base start course)
    (matched : body.Returns (base.moveTo start) (some span) middle) :
    ∃ rest, Taken body base middle rest ∧ rest.stop = course.stop := by
  obtain ⟨rfl, -⟩ := keep _ _ _ ahead matched
  obtain ⟨applied, finish, ending⟩ := course
  obtain ⟨chain, ends⟩ := taken
  cases chain with
  | nil =>
    cases ends_unmatched keep ahead ends matched
    exact ⟨⟨[], _, ending⟩, ⟨.nil, ends⟩, rfl⟩
  | cons matched' _ later =>
    cases (returns_unique matched matched').2
    exact ⟨⟨_, finish, ending⟩, ⟨later, ends⟩, rfl⟩

/-- One or more times or else nothing ends where the course does. -/
theorem optional_plus_returns (valid : base.Valid)
    (short : (base.remaining : Int) ≤ Span.maxLength) (keep : Keeps base body)
    (ran : body.Returns base result middle) (taken : Taken body base base.position course)
    (quiet : outer.Quiet) (innerQuiet : inner.Quiet) (label : String) :
    (optional (plus label body inner) outer).Returns base (some ⟨base.position, course.stop⟩)
      course.stop := by
  have start := Cursor.ahead_self valid
  apply returns_optional.mpr
  refine ⟨quiet, ?_⟩
  cases result with
  | none =>
    cases keep _ _ _ start ran
    rw [stop_of_miss taken ran]
    exact ⟨none, returns_plus.mpr (.inl ⟨ran, rfl⟩), rfl⟩
  | some span =>
    have forward := (keep _ _ _ start ran).2
    obtain ⟨rest, later, same⟩ := taken_after keep start taken ran
    have high := (chain_ahead keep forward later.chain).2
    have rounds := exhaust_returns valid short later forward.1 high label
    rw [same] at rounds
    refine ⟨some ⟨base.position, course.stop⟩, returns_plus.mpr (.inr ?_), rfl⟩
    exact ⟨span, middle, ran, rounds, innerQuiet, rfl⟩

/-- A body that stops at once when it is run a second time takes a course of at most one match. -/
theorem taken_settled (forward : start ≤ stop)
    (first : body.Returns (base.moveTo start) (some ⟨start, stop⟩) stop)
    (again : body.Returns (base.moveTo stop) (some ⟨stop, stop⟩) stop) :
    ∃ course, Taken body base start course ∧ course.stop = stop := by
  have ends : ∃ ending, Ends body base stop ending := by
    by_cases none_left : (base.moveTo stop).remaining = 0
    · exact ⟨.drained, .drained none_left⟩
    · exact ⟨.empty, .empty none_left again⟩
  obtain ⟨ending, ends⟩ := ends
  by_cases same : start = stop
  · subst same
    exact ⟨⟨[], start, ending⟩, ⟨.nil, ends⟩, rfl⟩
  · have further : start < stop := Nat.lt_of_le_of_ne forward same
    exact ⟨⟨[start], stop, ending⟩, ⟨.cons first further .nil, ends⟩, rfl⟩

/-- A repetition of the repetition ends where the course does. -/
theorem star_star_returns (valid : base.Valid) (short : (base.remaining : Int) ≤ Span.maxLength)
    (keep : Keeps base body) (taken : Taken body base base.position course) (quiet : outer.Quiet)
    (innerQuiet : inner.Quiet) (label outerLabel : String) :
    (star outerLabel (star label body inner) outer).Returns base
      (some ⟨base.position, course.stop⟩) course.stop := by
  have ahead := chain_ahead keep (Cursor.ahead_self valid) taken.chain
  have first := star_returns valid short taken (Nat.le_refl _) ahead.2 innerQuiet label
  -- Where the course has ended, the body takes the course that is over at once.
  have ended : Taken body base course.stop ⟨[], course.stop, course.ending⟩ := ⟨.nil, taken.ends⟩
  have again := star_returns valid short ended ahead.1 ahead.2 innerQuiet label
  obtain ⟨outerCourse, outerTaken, same⟩ := taken_settled ahead.1 first again
  have whole := star_returns valid short outerTaken (Nat.le_refl _) (same ▸ ahead.2) quiet
    outerLabel
  rw [same] at whole
  exact whole

/-- Where a course has ended, the body misses or matches the empty span, also if no unit remains
and the repetition has not run it there. -/
theorem idle_of_ends (keep : Keeps base body) (ahead : base.Ahead stop)
    (ends : Ends body base stop ending)
    (ran : body.Returns (base.moveTo stop) result left) :
    left = stop ∧ (result = none ∨ result = some ⟨stop, stop⟩) := by
  have kept := keep _ _ _ ahead ran
  cases result with
  | none => exact ⟨kept, .inl rfl⟩
  | some span =>
    obtain ⟨rfl, -⟩ := kept
    cases ends_unmatched keep ahead ends ran
    exact ⟨rfl, .inr rfl⟩

/-- Run from a window that is still in the buffer, one or more times is once and then zero or more
times, whatever the parts of the body test, tell or stop with, as long as its callables keep the
contract.

Let the parts not fault, and let nobody stop the run. Then zero or more times, one or more times or
else nothing, and a repetition of the repetition match the same span and end where it ends, and run
once more from there the body misses or matches the empty span. -/
theorem repetitions_agree (call : κ → Matcher) (body : Pattern κ) (cursor : Cursor)
    (inside : cursor.Inside) :
    (body.Meets (.ofCallables fun target => Keeps cursor (call target)) →
      ∀ observer : Observer,
        ((Pattern.plus body observer).run call).run cursor =
          ((Pattern.seq [body, .star body .silent] observer).run call).run cursor) ∧
    ((cursor.buffer.size : Int) ≤ Span.maxLength → body.Meets (harmless cursor call) →
      ∀ outer inner : Observer, outer.Quiet → inner.Quiet →
      ∃ stop : Nat,
        ((Pattern.star body outer).run call).Returns cursor (some ⟨cursor.position, stop⟩) stop ∧
        ((Pattern.optional (.plus body inner) outer).run call).Returns cursor
          (some ⟨cursor.position, stop⟩) stop ∧
        ((Pattern.star (.star body inner) outer).run call).Returns cursor
          (some ⟨cursor.position, stop⟩) stop ∧
        ∃ result, (body.run call).Returns (cursor.moveTo stop) result stop ∧
          (result = none ∨ result = some ⟨stop, stop⟩)) := by
  have start := Cursor.ahead_self inside.1
  refine ⟨?once, ?agree⟩
  case once =>
    intro met observer
    have keep : Keeps cursor (body.run call) := keeps_run met fun _ own => own
    exact plus_run_eq_seq_star inside.1 (fun stop missed => keep _ _ _ start missed) body.label
      observer
  case agree =>
    intro short met outer inner quiet innerQuiet
    have keep : Keeps cursor (body.run call) := keeps_run met fun _ own => own.1
    have returns (here : Nat) (ahead : cursor.Ahead here) :=
      returns_of_harmless inside short met ahead
    have left := remaining_short inside short
    obtain ⟨course, taken⟩ := taken_exists keep returns start
    have ahead := chain_ahead keep start taken.chain
    obtain ⟨_, _, first⟩ := returns _ start
    obtain ⟨result, _, last⟩ := returns _ ahead
    obtain ⟨rfl, idle⟩ := idle_of_ends keep ahead taken.ends last
    exact ⟨course.stop,
      star_returns inside.1 left taken (Nat.le_refl _) ahead.2 quiet body.label,
      optional_plus_returns inside.1 left keep first taken quiet innerQuiet body.label,
      star_star_returns inside.1 left keep taken quiet innerQuiet body.label _,
      result, last, idle⟩

/-- The letters up to the mark, in each of the three ways; the letter that may be missing is missing
there. -/
theorem maybeLetter_agrees :
    markedText.Inside ∧ (markedText.buffer.size : Int) ≤ Span.maxLength ∧
    maybeLetter.Meets (harmless markedText Empty.elim) ∧
    ((Pattern.seq [maybeLetter, .star maybeLetter .silent] (.interrupt "all" "stop")).run
      Empty.elim).run markedText =
        ⟨.error (.raised "stop"), 2,
          [.tested 0 'a' false, .observed (.log "letter") ⟨0, 1⟩ ['a'] 1,
            .tested 1 'b' false, .observed (.log "letter") ⟨1, 2⟩ ['b'] 2,
            .tested 2 ';' false, .emptyRound "maybe(alphabet)",
            .observed (.log "all") ⟨0, 2⟩ ['a', 'b'] 2]⟩ ∧
    ((Pattern.optional (.plus maybeLetter (.record "x")) .silent).run Empty.elim).Returns markedText
      (some ⟨0, 2⟩) 2 ∧
    ((Pattern.star (.star maybeLetter (.record "x")) .silent).run Empty.elim).Returns markedText
      (some ⟨0, 2⟩) 2 ∧
    ∃ result, (maybeLetter.run Empty.elim).Returns (markedText.moveTo 2) result 2 ∧
      (result = none ∨ result = some ⟨2, 2⟩) := by
  have inside : markedText.Inside := by decide
  have short : (markedText.buffer.size : Int) ≤ Span.maxLength := by decide
  have met := maybeLetter_harmless markedText
  obtain ⟨once, agree⟩ := repetitions_agree Empty.elim maybeLetter markedText inside
  have free : maybeLetter.Meets (.ofCallables fun target => Keeps markedText target.elim) :=
    met.callables fun target => target.elim
  obtain ⟨stop, plain, others⟩ := agree short met .silent (.record "x") trivial trivial
  have two : ((Pattern.star maybeLetter .silent).run Empty.elim).Returns markedText
      (some ⟨0, 2⟩) 2 := ⟨rfl, rfl⟩
  obtain ⟨_, rfl⟩ := returns_unique two plain
  exact ⟨inside, short, met, (once free _).symm.trans rfl, others⟩

end SpanLexer.RepetitionLaws
