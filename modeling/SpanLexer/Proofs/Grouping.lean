import SpanLexer.Proofs.Building
import SpanLexer.Proofs.Choices
import SpanLexer.Proofs.Rollback

/-!
Groups inside a sequence, a choice or a count.

A sequence of sequences is the sequence of all their parts, and so it is with choices. The cursor
does not take the same way in both: a group that misses goes back to where the group started, and
only from there the whole goes back to where it started itself. None of this shows. Whatever the
parts do, the nested pattern and the flat one end alike, with the cursor in the same place and the
same events behind them. The operators between expressions are therefore associative.
-/
namespace SpanLexer.Grouping
open Scan Matcher Confinement Choices

variable {κ : Type} {call : κ → Matcher} {base cursor : Cursor}

/-- From every position of every window the two patterns have the same run: the same match, miss or
fault, the same position afterwards, and the same events. -/
def Interchangeable (call : κ → Matcher) (one two : Pattern κ) : Prop :=
  ∀ cursor : Cursor, cursor.Valid → (one.run call).run cursor = (two.run call).run cursor

/-- The first list is the second one with some of its consecutive parts put together. -/
inductive Grouped (together : List (Pattern κ) → Pattern κ) :
    List (Pattern κ) → List (Pattern κ) → Prop where
  | nil : Grouped together [] []
  | single (part : Pattern κ) (later : Grouped together nested flat) :
      Grouped together (part :: nested) (part :: flat)
  | group (full : parts ≠ []) (later : Grouped together nested flat) :
      Grouped together (together parts :: nested) (parts ++ flat)

theorem grouped_map {together : List (Pattern κ) → Pattern κ} {groups : List (List (Pattern κ))}
    (full : ∀ group ∈ groups, group ≠ []) :
    Grouped together (groups.map together) groups.flatten := by
  induction groups with
  | nil => exact .nil
  | cons group others ih =>
    obtain ⟨first, later⟩ := List.forall_mem_cons.mp full
    exact .group first (ih later)

/-- Of three parts the first two may be put together. -/
theorem grouped_left (together : List (Pattern κ) → Pattern κ) (first second third : Pattern κ) :
    Grouped together [together [first, second], third] [first, second, third] := by
  have full : [first, second] ≠ [] := by simp
  exact .group full (.single third .nil)

/-- Of three parts the last two may be put together. -/
theorem grouped_right (together : List (Pattern κ) → Pattern κ) (first second third : Pattern κ) :
    Grouped together [first, together [second, third]] [first, second, third] := by
  have full : [second, third] ≠ [] := by simp
  exact .single first (.group full .nil)

/-- Two rows of matchers that end alike. Where a row that does not match has broken off is left
open. -/
structure SameRow (one two : Run Bool) : Prop where
  outcome : one.outcome = two.outcome
  trace : one.trace = two.trace
  position : one.outcome ≠ .ok false → one.position = two.position

/-- Rows that end alike still do so after the same events. -/
theorem SameRow.after (same : SameRow one two) (trace : Trace) :
    SameRow ⟨one.outcome, one.position, trace ++ one.trace⟩
      ⟨two.outcome, two.position, trace ++ two.trace⟩ :=
  ⟨same.outcome, congrArg (trace ++ ·) same.trace, same.position⟩

/-- A sequence knows its parts only by how their row ends. -/
theorem seq_congr {parts others : List Matcher} (valid : cursor.Valid)
    (same : SameRow ((allMatch parts).run cursor) ((allMatch others).run cursor))
    (observer : Observer) :
    (seq parts observer).run cursor = (seq others observer).run cursor := by
  rcases row : (allMatch parts).run cursor with ⟨outcome, stop, trace⟩
  rcases row' : (allMatch others).run cursor with ⟨outcome', stop', trace'⟩
  rw [row, row'] at same
  obtain ⟨rfl, rfl, position⟩ := same
  rcases outcome with fault | _ | _
  · obtain rfl : stop = stop' := position (by simp)
    rw [run_seq_fault row, run_seq_fault row']
  · rw [run_seq_miss valid row, run_seq_miss valid row']
  · obtain rfl : stop = stop' := position (by simp)
    rw [run_seq_match row, run_seq_match row']

/-- The same part may stand before two rows that end alike. -/
theorem sameRow_single {nested flat : List Matcher} (orderly : part.Orderly) (valid : cursor.Valid)
    (later : ∀ cursor : Cursor, cursor.Valid →
      SameRow ((allMatch nested).run cursor) ((allMatch flat).run cursor)) :
    SameRow ((allMatch (part :: nested)).run cursor) ((allMatch (part :: flat)).run cursor) := by
  have left := confined_of_orderly orderly cursor valid
  simp only [allMatch]
  rcases ran : part.run cursor with ⟨fault | _ | span, stop, trace⟩
  · rw [run_bind_of_error ran, run_bind_of_error ran]
    exact ⟨rfl, rfl, fun _ => rfl⟩
  · rw [run_bind_of_ok ran, run_bind_of_ok ran]
    exact ⟨rfl, rfl, fun _ => rfl⟩
  · rw [ran] at left
    rw [run_bind_of_ok ran, run_bind_of_ok ran]
    exact (later _ left).after trace

/-- A group may stand for its parts. If one of them misses, the cursor is put back to where the
group started, so that only the position tells the two rows apart. -/
theorem sameRow_group {parts nested flat : List Matcher} (orderly : ∀ part ∈ parts, part.Orderly)
    (valid : cursor.Valid)
    (later : ∀ cursor : Cursor, cursor.Valid →
      SameRow ((allMatch nested).run cursor) ((allMatch flat).run cursor)) :
    SameRow ((allMatch (seq parts .silent :: nested)).run cursor)
      ((allMatch (parts ++ flat)).run cursor) := by
  have inner : (allMatch parts).Orderly :=
    Confinement.orderly.related_allMatch (List.forall₂_same.mpr orderly)
  have left := confined_of_orderly inner cursor valid
  rw [allMatch_append, allMatch]
  rcases row : (allMatch parts).run cursor with ⟨fault | _ | _, stop, trace⟩
  · rw [run_bind_of_error (run_seq_fault row _), run_bind_of_error row]
    exact ⟨rfl, rfl, fun _ => rfl⟩
  · rw [run_bind_of_ok (run_seq_miss valid row _), run_bind_of_ok row]
    exact ⟨rfl, rfl, fun matched => (matched rfl).elim⟩
  · rw [row] at left
    have nobody : trace ++ Observer.silent.notes (cursor.moveTo stop) ⟨cursor.position, stop⟩ =
        trace := List.append_nil trace
    rw [run_bind_of_ok (run_seq_match row _), run_bind_of_ok row, nobody]
    exact (later _ left).after trace

theorem sameRow_grouped (orderly : ∀ target, (call target).Orderly) (valid : cursor.Valid)
    (grouped : Grouped (fun parts => .seq parts .silent) nested flat) :
    SameRow ((allMatch (nested.map (Pattern.run call))).run cursor)
      ((allMatch (flat.map (Pattern.run call))).run cursor) := by
  induction grouped generalizing cursor with
  | nil => exact ⟨rfl, rfl, fun _ => rfl⟩
  | single part _ ih => exact sameRow_single (orderly_run orderly part) valid fun _ => ih
  | @group parts nested flat _ _ ih =>
    rw [List.map_append, List.map_cons, Pattern.run, Pattern.runEach_eq_map]
    refine sameRow_group ?_ valid fun _ => ih
    exact List.forall_mem_map.mpr fun part _ => orderly_run orderly part

theorem seq_grouped (orderly : ∀ target, (call target).Orderly)
    (grouped : Grouped (fun parts => .seq parts .silent) nested flat) (observer : Observer) :
    Interchangeable call (.seq nested observer) (.seq flat observer) := by
  intro cursor valid
  simp only [Pattern.run, Pattern.runEach_eq_map]
  exact seq_congr valid (sameRow_grouped orderly valid grouped) observer

/-- An exact count may be divided. -/
theorem times_add (orderly : body.Orderly) (count more : Nat) (valid : cursor.Valid)
    (observer : Observer) :
    (times body (count + more) observer).run cursor =
      (seq [times body count .silent, times body more .silent] observer).run cursor := by
  have copies : ∀ number, ∀ part ∈ List.replicate number body, part.Orderly := by
    intro number part member
    rw [List.eq_of_mem_replicate member]
    exact orderly
  have last (cursor : Cursor) (valid : cursor.Valid) :
      SameRow ((allMatch [seq (List.replicate more body) .silent]).run cursor)
        ((allMatch (List.replicate more body ++ [])).run cursor) :=
    sameRow_group (copies more) valid fun _ _ => ⟨rfl, rfl, fun _ => rfl⟩
  have rows := sameRow_group (copies count) valid last
  rw [List.append_nil, ← List.replicate_add] at rows
  rw [times_eq_seq, times_eq_seq, times_eq_seq]
  exact (seq_congr valid rows observer).symm

/-- A choice that nobody listens to is the search for its first match. -/
theorem choice_silent_run (alternatives : List Matcher) (cursor : Cursor) :
    (choice alternatives .silent).run cursor =
      (firstMatch cursor.position alternatives).run cursor := by
  simp only [choice_eq_observed, observed_silent]
  rfl

/-- A group of alternatives may stand for them. When all of them have missed, the cursor is back
already, and putting it back once more changes nothing. -/
theorem firstMatch_group (low : base.origin ≤ start) (high : start ≤ base.limit)
    {parts nested flat : List Matcher}
    (later : (firstMatch start nested).run (base.moveTo start) =
      (firstMatch start flat).run (base.moveTo start)) :
    (firstMatch start (choice parts .silent :: nested)).run (base.moveTo start) =
      (firstMatch start (parts ++ flat)).run (base.moveTo start) := by
  have own : (choice parts .silent).run (base.moveTo start) =
      (firstMatch start parts).run (base.moveTo start) := choice_silent_run _ _
  rw [firstMatch_append]
  rcases search : (firstMatch start parts).run (base.moveTo start) with
    ⟨fault | _ | span, stop, trace⟩
  · have hit : ¬ Misses (choice parts .silent) (base.moveTo start) := by simp [Misses, own, search]
    rw [firstMatch_run_hit hit, run_bind_of_error search, own, search]
  · obtain rfl : stop = start := Rollback.firstMatch_miss ⟨by rw [search], by rw [search]⟩
    have missed : Misses (choice parts .silent) (base.moveTo stop) := by simp [Misses, own, search]
    rw [firstMatch_run_miss low high missed, run_bind_of_ok search, later, own, search]
    rfl
  · have hit : ¬ Misses (choice parts .silent) (base.moveTo start) := by simp [Misses, own, search]
    rw [firstMatch_run_hit hit, run_bind_of_ok search, own, search]
    simp

theorem firstMatch_grouped (low : base.origin ≤ start) (high : start ≤ base.limit)
    (grouped : Grouped (fun parts => .choice parts .silent) nested flat) :
    (firstMatch start (nested.map (Pattern.run call))).run (base.moveTo start) =
      (firstMatch start (flat.map (Pattern.run call))).run (base.moveTo start) := by
  induction grouped with
  | nil => rfl
  | single part _ ih =>
    simp only [List.map_cons]
    by_cases missed : Misses (part.run call) (base.moveTo start)
    · rw [firstMatch_run_miss low high missed, firstMatch_run_miss low high missed, ih]
    · rw [firstMatch_run_hit missed, firstMatch_run_hit missed]
  | group _ _ ih =>
    rw [List.map_append, List.map_cons, Pattern.run, Pattern.runEach_eq_map]
    exact firstMatch_group low high ih

theorem choice_grouped (grouped : Grouped (fun parts => .choice parts .silent) nested flat)
    (observer : Observer) :
    Interchangeable call (.choice nested observer) (.choice flat observer) := by
  intro cursor valid
  have search : (firstMatch cursor.position (nested.map (Pattern.run call))).run cursor =
      (firstMatch cursor.position (flat.map (Pattern.run call))).run cursor :=
    firstMatch_grouped valid.1 valid.2 grouped
  simp only [Pattern.run, Pattern.runEach_eq_map]
  change (firstMatch _ _ >>= _).run cursor = (firstMatch _ _ >>= _).run cursor
  rw [run_bind, run_bind, search]

/-- Names that are not empty, joined, are a name that is not empty. -/
theorem intercalate_ne_empty {names : List String} (full : names ≠ [])
    (named : ∀ name ∈ names, name ≠ "") (separator : String) :
    separator.intercalate names ≠ "" := by
  obtain ⟨first, others, rfl⟩ := List.exists_cons_of_ne_nil full
  have first_named := named first List.mem_cons_self
  by_cases alone : others = []
  · simpa [alone] using first_named
  · simp [String.intercalate_cons_of_ne_nil alone, first_named]

theorem grouped_nil_iff {together : List (Pattern κ) → Pattern κ}
    (grouped : Grouped together nested flat) : nested = [] ↔ flat = [] := by
  cases grouped with
  | nil => simp
  | single => simp
  | group full => simp [full]

/-- A group is called what its parts are called, joined, so joining the names of groups joins the
names of all parts. -/
theorem joined_grouped {together : List (Pattern κ) → Pattern κ} {separator otherwise : String}
    (called : ∀ parts, (together parts).label =
      Pattern.labelOr (separator.intercalate (parts.map Pattern.label)) otherwise)
    (grouped : Grouped together nested flat) (named : ∀ part ∈ flat, part.label ≠ "") :
    separator.intercalate (nested.map Pattern.label) =
      separator.intercalate (flat.map Pattern.label) := by
  induction grouped with
  | nil => rfl
  | @single nested flat part later ih =>
    have same := ih fun other member => named other (List.mem_cons_of_mem _ member)
    by_cases last : nested = []
    · obtain rfl : flat = [] := (grouped_nil_iff later).mp last
      rw [last]
    · have more : flat ≠ [] := (grouped_nil_iff later).not.mp last
      rw [List.map_cons, List.map_cons, String.intercalate_cons_of_ne_nil (by simpa using last),
        String.intercalate_cons_of_ne_nil (by simpa using more), same]
  | @group parts nested flat full later ih =>
    have same := ih fun other member => named other (List.mem_append_right _ member)
    have inner : separator.intercalate (parts.map Pattern.label) ≠ "" := by
      refine intercalate_ne_empty (by simpa using full) ?_ separator
      exact List.forall_mem_map.mpr fun part member => named part (List.mem_append_left _ member)
    have own : (together parts).label = separator.intercalate (parts.map Pattern.label) := by
      simp [called, Pattern.labelOr, inner]
    by_cases last : nested = []
    · obtain rfl : flat = [] := (grouped_nil_iff later).mp last
      simp [last, own]
    · have more : flat ≠ [] := (grouped_nil_iff later).not.mp last
      rw [List.map_cons, List.map_append, String.intercalate_cons_of_ne_nil (by simpa using last),
        String.intercalate_append_of_ne_nil (by simpa using full) (by simpa using more), own, same]

/-- What an operator composes is called what its parts are called, joined. -/
theorem compose_called (sign : Operator) : ∃ separator otherwise : String,
    ∀ (parts : List (Pattern κ)) (observer : Observer), (sign.compose parts observer).label =
      Pattern.labelOr (separator.intercalate (parts.map Pattern.label)) otherwise := by
  cases sign with
  | and =>
    refine ⟨" & ", "bind_tokenizer", fun parts observer => ?_⟩
    rw [Operator.compose, Pattern.label, Pattern.labels_eq_map]
  | or =>
    refine ⟨" | ", "one_of_tokenizer", fun parts observer => ?_⟩
    rw [Operator.compose, Pattern.label, Pattern.labels_eq_map]

theorem label_grouped (sign : Operator) (grouped : Grouped (sign.compose · .silent) nested flat)
    (named : ∀ part ∈ flat, part.label ≠ "") (observer : Observer) :
    (sign.compose nested observer).label = (sign.compose flat observer).label := by
  obtain ⟨_, _, called⟩ := compose_called sign
  rw [called, called, joined_grouped (fun parts => called parts .silent) grouped named]

theorem compose_grouped (orderly : ∀ target, (call target).Orderly) (sign : Operator)
    (grouped : Grouped (sign.compose · .silent) nested flat) (observer : Observer) :
    Interchangeable call (sign.compose nested observer) (sign.compose flat observer) := by
  cases sign with
  | and => exact seq_grouped orderly grouped observer
  | or => exact choice_grouped grouped observer

/-- It makes no difference which two of three are put together first. -/
theorem compose_associates (orderly : ∀ target, (call target).Orderly) (sign : Operator)
    (first second third : Pattern κ) (observer : Observer) :
    Interchangeable call (sign.compose [sign.compose [first, second] .silent, third] observer)
      (sign.compose [first, sign.compose [second, third] .silent] observer) ∧
    ((∀ part ∈ [first, second, third], part.label ≠ "") →
      (sign.compose [sign.compose [first, second] .silent, third] observer).label =
        (sign.compose [first, sign.compose [second, third] .silent] observer).label) := by
  have left := grouped_left (sign.compose · .silent) first second third
  have right := grouped_right (sign.compose · .silent) first second third
  refine ⟨fun cursor valid => ?_, fun named => ?_⟩
  · exact (compose_grouped orderly sign left observer cursor valid).trans
      (compose_grouped orderly sign right observer cursor valid).symm
  · exact (label_grouped sign left named observer).trans
      (label_grouped sign right named observer).symm

/-- The operators are associative. Where both ways to put the same operator between three
expressions are not refused, they are built from the same three patterns, run alike, and have the
same name if the three have names. -/
theorem operators_associate {library : Library} {sign : Operator} {first second third : Expr}
    (left : ((Expr.operator sign (.operator sign first second) third).buildPattern library).Yields
      one)
    (right : ((Expr.operator sign first (.operator sign second third)).buildPattern library).Yields
      two)
    {call : Callable → Matcher} (orderly : ∀ target, (call target).Orderly) :
    Interchangeable call one two ∧
    ∃ parts, List.Forall₂ (fun part => (Expr.buildPattern library part).Yields)
        [first, second, third] parts ∧
      ((∀ part ∈ parts, part.label ≠ "") → one.label = two.label) := by
  obtain ⟨_, _, c, inner, last, rfl⟩ := Expr.yields_operator.mp left
  obtain ⟨_, a, b, start, middle, rfl⟩ := Expr.yields_operator.mp inner
  obtain ⟨_, a', _, start', inner', rfl⟩ := Expr.yields_operator.mp right
  obtain ⟨_, b', c', middle', last', rfl⟩ := Expr.yields_operator.mp inner'
  -- An expression is built to one pattern only.
  obtain rfl : a = a' := Except.ok.inj (start.symm.trans start')
  obtain rfl : b = b' := Except.ok.inj (middle.symm.trans middle')
  obtain rfl : c = c' := Except.ok.inj (last.symm.trans last')
  obtain ⟨alike, named⟩ := compose_associates orderly sign a b c .silent
  exact ⟨alike, [a, b, c], .cons start (.cons middle (.cons last .nil)), named⟩

/-- How parts are put together does not matter, whatever their callables do. A sequence of sequences
runs like the sequence of all their parts, and a choice of choices like the choice between all
their alternatives; so it makes no difference which two of three are put together first, and where
all parts have names, the names are the same, too. A count may be divided. -/
theorem grouping_does_not_matter (call : κ → Matcher) (orderly : ∀ target, (call target).Orderly)
    (observer : Observer) :
    (∀ groups : List (List (Pattern κ)), (∀ group ∈ groups, group ≠ []) →
      Interchangeable call (.seq (groups.map (.seq · .silent)) observer)
        (.seq groups.flatten observer) ∧
      Interchangeable call (.choice (groups.map (.choice · .silent)) observer)
        (.choice groups.flatten observer) ∧
      ((∀ part ∈ groups.flatten, part.label ≠ "") →
        (Pattern.seq (groups.map (.seq · .silent)) observer).label =
          (Pattern.seq groups.flatten observer).label ∧
        (Pattern.choice (groups.map (.choice · .silent)) observer).label =
          (Pattern.choice groups.flatten observer).label)) ∧
    (∀ first second third : Pattern κ,
      Interchangeable call (.seq [.seq [first, second] .silent, third] observer)
        (.seq [first, .seq [second, third] .silent] observer) ∧
      Interchangeable call (.choice [.choice [first, second] .silent, third] observer)
        (.choice [first, .choice [second, third] .silent] observer) ∧
      ((∀ part ∈ [first, second, third], part.label ≠ "") →
        (Pattern.seq [.seq [first, second] .silent, third] observer).label =
          (Pattern.seq [first, .seq [second, third] .silent] observer).label ∧
        (Pattern.choice [.choice [first, second] .silent, third] observer).label =
          (Pattern.choice [first, .choice [second, third] .silent] observer).label)) ∧
    ∀ (body : Pattern κ) (count more : Nat),
      Interchangeable call (.times body (count + more) observer)
        (.seq [.times body count .silent, .times body more .silent] observer) := by
  refine ⟨?groups, ?three, ?counts⟩
  case groups =>
    intro groups full
    refine ⟨seq_grouped orderly (grouped_map full) observer,
      choice_grouped (grouped_map full) observer, fun named => ⟨?_, ?_⟩⟩
    · exact label_grouped .and (grouped_map full) named observer
    · exact label_grouped .or (grouped_map full) named observer
  case three =>
    intro first second third
    obtain ⟨sequences, rowNames⟩ := compose_associates orderly .and first second third observer
    obtain ⟨choices, choiceNames⟩ := compose_associates orderly .or first second third observer
    exact ⟨sequences, choices, fun named => ⟨rowNames named, choiceNames named⟩⟩
  case counts =>
    intro body count more cursor valid
    simp only [Pattern.run, Pattern.runEach]
    exact times_add (orderly_run orderly body) count more valid observer

/-- Consumes a unit. -/
def step : Callable :=
  .script [.advance 1, .give]

/-- Two groups of callables that need not put the cursor back. -/
def strayGroups : List (List (Pattern Callable)) :=
  [[.callable "step" step], [.callable "lost" lost, .callable "broken" broken]]

/-- The second group goes back from the end to after the first letter, and the whole to before it.
Only the third round of the divided count goes too far, and it stops with its own fault. -/
theorem strayGroups_alike :
    (∀ target, (Library.call [] 1 target).Orderly) ∧ (∀ group ∈ strayGroups, group ≠ []) ∧
    (∀ part ∈ strayGroups.flatten, part.label ≠ "") ∧ letters.Valid ∧
    ((Pattern.seq (strayGroups.map (.seq · .silent)) (.record "x")).run (Library.call [] 1)).run
      letters = ⟨.ok none, 0, [.noted "lost" 2]⟩ ∧
    ((Pattern.choice (strayGroups.map (.choice · .silent)) (.record "x")).run
      (Library.call [] 1)).run letters =
        ⟨.ok (some ⟨0, 1⟩), 1, [.observed (.log "x") ⟨0, 1⟩ ['a'] 1]⟩ ∧
    (Pattern.seq (strayGroups.map (.seq · .silent)) (.record "x")).label = "step & lost & broken" ∧
    ((Pattern.seq [.times (.callable "step" step) 1 .silent,
      .times (.callable "step" step) 2 .silent] (.record "x")).run (Library.call [] 1)).run
        letters = ⟨.error (.advanceOutside 1 0), 2, []⟩ := by
  have orderly := call_orderly [] 1
  have full : ∀ group ∈ strayGroups, group ≠ [] := by simp [strayGroups]
  have named : ∀ part ∈ strayGroups.flatten, part.label ≠ "" := by
    simp [strayGroups, Pattern.label]
  have valid : letters.Valid := by decide
  obtain ⟨groups, -, counts⟩ :=
    grouping_does_not_matter (Library.call [] 1) orderly (.record "x")
  obtain ⟨sequences, choices, names⟩ := groups strayGroups full
  refine ⟨orderly, full, named, valid, (sequences letters valid).trans rfl,
    (choices letters valid).trans rfl, (names named).1.trans ?_,
    (counts (.callable "step" step) 1 2 letters valid).symm.trans rfl⟩
  rfl

end SpanLexer.Grouping
