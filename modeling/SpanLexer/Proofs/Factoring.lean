import SpanLexer.Proofs.Choices
import SpanLexer.Proofs.Safety

/-!
Alternatives that start alike.

When all alternatives of a choice start with the same part, that part may be matched first and the
choice be made after it. This way the part runs once and not once for each alternative, and a miss
goes back to after it and not to before it; but from the same position it does the same again, so
the match is the same. An alternative that starts with all of an earlier one is never taken.
-/
namespace SpanLexer.Factoring
open Scan Matcher Contract Safety Choices

variable {cursor : Cursor} {inner outer : Observer}

/-- A sequence of two misses with the second part, where the first one has matched, and else it
reaches as far as the second part does. -/
theorem seq_pair_returns (valid : cursor.Valid) (quiet : observer.Quiet)
    (matched : first.Returns cursor (some span) middle)
    (ran : second.Returns (cursor.moveTo middle) result stop) :
    (seq [first, second] observer).Returns cursor (result.map fun _ => ⟨cursor.position, stop⟩)
      (result.elim cursor.position fun _ => stop) := by
  cases result with
  | none =>
    have row : (allMatch [first, second]).Returns cursor false stop :=
      returns_allMatch_cons.mpr (.inr ⟨span, middle, matched,
        returns_allMatch_cons.mpr (.inl ⟨ran, rfl⟩)⟩)
    exact returns_seq.mpr ⟨false, stop, row, .inl ⟨rfl, valid, rfl, rfl⟩⟩
  | some found =>
    have row : (allMatch [first, second]).Returns cursor true stop :=
      returns_allMatch_cons.mpr (.inr ⟨span, middle, matched,
        returns_allMatch_cons.mpr (.inr ⟨found, stop, ran,
          returns_allMatch_nil.mpr ⟨rfl, rfl⟩⟩)⟩)
    exact returns_seq.mpr ⟨true, stop, row, .inr ⟨rfl, quiet, rfl, rfl⟩⟩

/-- A sequence whose first part misses is put back and does not run the others. -/
theorem seq_returns_miss (valid : cursor.Valid) (missed : first.Returns cursor none stop)
    (others : List Matcher) (observer : Observer) :
    (seq (first :: others) observer).Returns cursor none cursor.position := by
  have row : (allMatch (first :: others)).Returns cursor false stop :=
    returns_allMatch_cons.mpr (.inl ⟨missed, rfl⟩)
  exact returns_seq.mpr ⟨false, stop, row, .inl ⟨rfl, valid, rfl, rfl⟩⟩

theorem choice_returns_miss {alternatives : List Matcher} (valid : cursor.Valid)
    (missed : ∀ part ∈ alternatives, ∃ stop, part.Returns cursor none stop)
    (observer : Observer) :
    (choice alternatives observer).Returns cursor none cursor.position := by
  have each : ∀ part ∈ alternatives, Misses part cursor := by
    intro part member
    obtain ⟨_, ran, _⟩ := missed part member
    exact ran
  have whole := choice_run_miss valid each observer
  exact ⟨by rw [whole], by rw [whole]⟩

/-- Where the first part has matched, the search among the sequences goes as the search among the
rest of them does from there. -/
theorem firstMatch_factored {alternatives : List Matcher} (valid : cursor.Valid)
    (quiet : inner.Quiet) (matched : first.Returns cursor (some span) middle)
    (search : (firstMatch middle alternatives).Returns (cursor.moveTo middle) result stop) :
    (firstMatch cursor.position (alternatives.map fun part => seq [first, part] inner)).Returns
      cursor (result.map fun _ => ⟨cursor.position, stop⟩)
      (result.elim cursor.position fun _ => stop) := by
  induction alternatives with
  | nil =>
    obtain ⟨rfl, rfl⟩ := returns_firstMatch_nil.mp search
    exact returns_firstMatch_nil.mpr ⟨rfl, rfl⟩
  | cons part others ih =>
    rw [List.map_cons]
    rcases returns_firstMatch_cons.mp search with ⟨found, ran, rfl⟩ | ⟨_, missed, _, later⟩
    · exact returns_firstMatch_cons.mpr (.inl ⟨_, seq_pair_returns valid quiet matched ran, rfl⟩)
    · have back := seq_pair_returns valid quiet matched missed
      exact returns_firstMatch_cons.mpr (.inr ⟨_, back, valid, ih later⟩)

/-- A first part that all alternatives have in common may be matched before the choice is made. -/
theorem choice_factored {alternatives : List Matcher} (valid : cursor.Valid)
    (quiet : outer.Quiet) (innerQuiet : inner.Quiet)
    (matched : first.Returns cursor (some span) middle)
    (chosen : (choice alternatives inner).Returns (cursor.moveTo middle) result stop) :
    (choice (alternatives.map fun part => seq [first, part] inner) outer).Returns cursor
      (result.map fun _ => ⟨cursor.position, stop⟩)
      (result.elim cursor.position fun _ => stop) := by
  have search := (returns_choice.mp chosen).1
  exact returns_choice.mpr ⟨firstMatch_factored valid innerQuiet matched search, fun _ => quiet⟩

/-- When all others start with the first alternative, it decides alone: where it misses, so do
they. -/
theorem choice_shadowed (valid : cursor.Valid) (quiet : outer.Quiet)
    (ran : first.Returns cursor result stop) (back : result = none → stop = cursor.position)
    (rests : List (List Matcher)) (inner : Observer) :
    (choice (first :: rests.map fun others => seq (first :: others) inner) outer).Returns cursor
      result stop := by
  cases result with
  | some span =>
    exact returns_choice.mpr ⟨returns_firstMatch_cons.mpr (.inl ⟨span, ran, rfl⟩), fun _ => quiet⟩
  | none =>
    rw [back rfl]
    refine choice_returns_miss valid ?_ outer
    refine List.forall_mem_cons.mpr ⟨⟨stop, ran⟩, ?_⟩
    exact List.forall_mem_map.mpr fun others _ => ⟨_, seq_returns_miss valid ran others inner⟩

/-- Let the parts of a pattern not fault and let nobody stop the run. Whatever alternatives of this
kind follow the pattern, the choice between the sequences of it and one of them, and the sequence of
it and the choice between them, return the same match or miss at the same position. And a choice
that tries the pattern first, and then any sequences that start with it, returns what the pattern
does; nothing is asked of what else stands in these sequences, for it never runs. -/
theorem first_part_factors_out (call : κ → Matcher) (first : Pattern κ) (cursor : Cursor)
    (inside : cursor.Inside) (short : (cursor.buffer.size : Int) ≤ Span.maxLength)
    (met : first.Meets (harmless cursor call)) (inner outer : Observer) (innerQuiet : inner.Quiet)
    (quiet : outer.Quiet) :
    (∀ alternatives : List (Pattern κ),
      (∀ part ∈ alternatives, part.Meets (harmless cursor call)) →
      ∃ result stop,
        ((Pattern.choice (alternatives.map fun part => .seq [first, part] inner) outer).run
          call).Returns cursor result stop ∧
        ((Pattern.seq [first, .choice alternatives inner] outer).run call).Returns cursor
          result stop) ∧
    ∀ rests : List (List (Pattern κ)), ∃ result stop,
      (first.run call).Returns cursor result stop ∧
      ((Pattern.choice (first :: rests.map fun others => .seq (first :: others) inner) outer).run
        call).Returns cursor result stop := by
  have valid := inside.1
  have start := Cursor.ahead_self valid
  have keep : Keeps cursor (first.run call) := keeps_run met fun _ own => own.1
  obtain ⟨result, middle, ran⟩ := returns_of_harmless inside short met start
  have kept := keep _ _ _ start ran
  refine ⟨?factoring, ?shadowing⟩
  case factoring =>
    intro alternatives each
    have sequences : (alternatives.map fun part => Pattern.seq [first, part] inner).map
        (Pattern.run call) =
        (alternatives.map (Pattern.run call)).map fun part => seq [first.run call, part] inner := by
      simp [Pattern.run, Pattern.runEach, Function.comp_def]
    simp only [Pattern.run, Pattern.runEach, Pattern.runEach_eq_map, sequences]
    cases result with
    | none =>
      refine ⟨none, cursor.position, choice_returns_miss valid ?_ outer,
        seq_returns_miss valid ran _ outer⟩
      exact List.forall_mem_map.mpr fun part _ => ⟨_, seq_returns_miss valid ran [part] inner⟩
    | some span =>
      obtain ⟨found, stop, chosen⟩ :=
        returns_of_harmless inside short (.choice each innerQuiet) kept.2
      rw [Pattern.run, Pattern.runEach_eq_map] at chosen
      exact ⟨_, _, choice_factored valid quiet innerQuiet ran chosen,
        seq_pair_returns valid quiet ran chosen⟩
  case shadowing =>
    intro rests
    have sequences : (rests.map fun others => Pattern.seq (first :: others) inner).map
        (Pattern.run call) =
        (rests.map (List.map (Pattern.run call))).map fun others =>
          seq (first.run call :: others) inner := by
      simp [Pattern.run, Pattern.runEach, Pattern.runEach_eq_map, Function.comp_def]
    simp only [Pattern.run, Pattern.runEach, Pattern.runEach_eq_map, sequences]
    refine ⟨result, middle, ran, choice_shadowed valid quiet ran ?_ _ inner⟩
    rintro rfl
    exact kept

/-- Some letters. -/
def someLetters : Pattern Empty :=
  .plus (.ofClass .letter (.record "letter")) .silent

/-- Two letters and a digit. -/
def numberedText : Cursor :=
  ⟨.text ['a', 'b', '1'], 0, 0, 3⟩

/-- Letters and a mark, or letters and a digit: the first of these misses behind the letters. The
letters alone, tried first, leave nothing to the longer alternative, which would match. -/
theorem someLetters_factors_out :
    numberedText.Inside ∧ (numberedText.buffer.size : Int) ≤ Span.maxLength ∧
    someLetters.Meets (harmless numberedText Empty.elim) ∧
    (∀ part ∈ [Pattern.character ';' .silent, .ofClass .digit .silent],
      part.Meets (harmless numberedText Empty.elim)) ∧
    ((Pattern.choice [.seq [someLetters, .character ';' .silent] .silent,
      .seq [someLetters, .ofClass .digit .silent] .silent] (.record "x")).run Empty.elim).Returns
        numberedText (some ⟨0, 3⟩) 3 ∧
    ((Pattern.choice [someLetters, .seq [someLetters, .ofClass .digit .silent] .silent]
      (.record "x")).run Empty.elim).Returns numberedText (some ⟨0, 2⟩) 2 := by
  have inside : numberedText.Inside := by decide
  have short : (numberedText.buffer.size : Int) ≤ Span.maxLength := by decide
  have met : someLetters.Meets (harmless numberedText Empty.elim) :=
    .plus (.unit (fun _ => ⟨_, rfl⟩) trivial) trivial
  have each : ∀ part ∈ [Pattern.character ';' .silent, .ofClass .digit .silent],
      part.Meets (harmless numberedText Empty.elim) := by
    intro part member
    simp only [List.mem_cons, List.not_mem_nil, or_false] at member
    rcases member with rfl | rfl <;> exact .unit (fun _ => ⟨_, rfl⟩) trivial
  obtain ⟨factoring, shadowing⟩ := first_part_factors_out Empty.elim someLetters numberedText inside
    short met .silent (.record "x") trivial trivial
  obtain ⟨_, _, choices, factored⟩ := factoring _ each
  obtain ⟨_, _, alone, shadowed⟩ := shadowing [[.ofClass .digit .silent]]
  have after : ((Pattern.seq [someLetters, .choice [.character ';' .silent,
      .ofClass .digit .silent] .silent] (.record "x")).run Empty.elim).Returns numberedText
      (some ⟨0, 3⟩) 3 := ⟨rfl, rfl⟩
  have letters : (someLetters.run Empty.elim).Returns numberedText (some ⟨0, 2⟩) 2 := ⟨rfl, rfl⟩
  obtain ⟨rfl, rfl⟩ := returns_unique factored after
  obtain ⟨rfl, rfl⟩ := returns_unique alone letters
  exact ⟨inside, short, met, each, choices, shadowed⟩

end SpanLexer.Factoring
