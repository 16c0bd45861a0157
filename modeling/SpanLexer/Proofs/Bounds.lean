import SpanLexer.Proofs.Contract

/-!
Bounds on what a run can do.

`Bounds` say where runs may come, which faults may stop them and where, and which events they may
leave. A pattern has few steps of its own: it asks about the unit it stands at, consumes what it has
found there, tells the span that it has consumed, and goes back to where it has been. Bounds that
these steps keep (`Own`) are kept by all runs of a pattern whose predicates, observers and callables
keep them. This includes branches that are given up and runs that a fault ends, because neither the
position nor an event is taken back.

One walk over the combinators therefore serves for everything of this kind. Which faults a run can
stop with, which events it can leave, and how far it comes when units are gone differ only in the
bounds.
-/
namespace SpanLexer

namespace Pattern

mutual

/-- The bodies of the repetitions in a pattern, at any depth. -/
def repeatedBodies : Pattern κ → List (Pattern κ)
  | .unit _ _ _ => []
  | .literal _ _ => []
  | .seq parts _ => repeatedBodiesEach parts
  | .choice alternatives _ => repeatedBodiesEach alternatives
  | .star body _ => body :: body.repeatedBodies
  | .plus body _ => body :: body.repeatedBodies
  | .times body _ _ => body.repeatedBodies
  | .optional body _ => body.repeatedBodies
  | .observed body _ => body.repeatedBodies
  | .labelled _ body => body.repeatedBodies
  | .callable _ _ => []
  | .inert _ _ => []

/-- The bodies of the repetitions in several patterns. -/
def repeatedBodiesEach : List (Pattern κ) → List (Pattern κ)
  | [] => []
  | part :: others => part.repeatedBodies ++ repeatedBodiesEach others

end

theorem repeatedBodiesEach_eq_flatMap (parts : List (Pattern κ)) :
    repeatedBodiesEach parts = parts.flatMap repeatedBodies := by
  induction parts with
  | nil => simp [repeatedBodiesEach]
  | cons part others ih => simp [repeatedBodiesEach, ih]

end Pattern

/-- What runs may do. -/
structure Bounds where
  /-- A run that is not stopped may come to the position. -/
  reaches : Nat → Prop
  /-- The fault may stop a run at the position. -/
  stops : Fault → Nat → Prop
  /-- The event may be left. -/
  leaves : Event → Prop

namespace Bounds
open Scan Matcher Contract

variable {bounds : Bounds} {base cursor : Cursor}

/-- However the run ended, it did what it may. -/
structure Admits (bounds : Bounds) (run : Run α) : Prop where
  reaches : ∀ value, run.outcome = .ok value → bounds.reaches run.position
  stops : ∀ fault, run.outcome = .error fault → bounds.stops fault run.position
  leaves : ∀ event ∈ run.trace, bounds.leaves event

/-- From everywhere they may come, the runs of the matcher do what they may. -/
def Governs (bounds : Bounds) (base : Cursor) (matcher : Matcher) : Prop :=
  ∀ start, bounds.reaches start → bounds.Admits (matcher.run (base.moveTo start))

/-- The fault may stop runs anywhere. -/
def Tolerates (bounds : Bounds) (fault : Fault) : Prop :=
  ∀ here, bounds.reaches here → bounds.stops fault here

/-- The warning about a repetition is allowed, or its body never matches the empty span. -/
def WarnsWithin (allowed : Event → Prop) (base : Cursor) (label : String) (body : Matcher) : Prop :=
  ∀ start span stop, base.Ahead start → body.Returns (base.moveTo start) (some span) stop →
    span.length? = .ok 0 → allowed (.emptyRound label)

theorem warnsWithin_of_allowed (own : allowed (.emptyRound label)) :
    WarnsWithin allowed base label body :=
  fun _ _ _ _ _ _ => own

/-- A pattern's own steps are within the bounds, and only positions ahead are. -/
structure Own (bounds : Bounds) (base : Cursor) : Prop where
  valid : base.Valid
  ahead {here : Nat} : bounds.reaches here → base.Ahead here
  /-- A unit that is found may be consumed. -/
  next {here : Nat} {unit : Char} : bounds.reaches here →
    (base.moveTo here).unitAt 0 = .ok unit → bounds.reaches (here + 1)
  /-- A literal that stands at the position may be consumed. -/
  literal {here : Nat} {text : List Char} : bounds.reaches here →
    (base.moveTo here).startsWith text = true → bounds.reaches (here + text.length)
  /-- A unit may be found missing. -/
  gone {here : Nat} : bounds.reaches here →
    (base.moveTo here).unitAt 0 = .error .unitGone → bounds.stops .unitGone here
  /-- A span may turn out to be too long to have a length. -/
  long {start stop : Nat} : bounds.reaches start → bounds.reaches stop →
    Span.maxLength < (stop - start : Nat) → bounds.stops .lengthOverflow stop
  /-- A predicate may be asked about the unit at the position. -/
  tested {here : Nat} {unit : Char} (shown : Bool) : bounds.reaches here →
    (base.moveTo here).unitAt 0 = .ok unit → bounds.leaves (.tested here unit shown)
  /-- An observer may be told a span whose end is the position. -/
  observed {start stop : Nat} (sink : Sink) : bounds.reaches start → bounds.reaches stop →
    start ≤ stop →
      bounds.leaves (.observed sink ⟨start, stop⟩ (base.buffer.textOf ⟨start, stop⟩) stop)

/-- The parts of a pattern keep the bounds. -/
def parts (bounds : Bounds) (base : Cursor) (call : κ → Matcher) : Demand κ where
  predicate := Predicate.FaultsWithin bounds.Tolerates
  observer := Observer.FaultsWithin bounds.Tolerates
  callable target := Keeps base (call target) ∧ bounds.Governs base (call target)
  inert := ∀ typeName, bounds.Tolerates (.notCallable typeName)

theorem admits_bind {scan : Scan α} {next : α → Scan β} (first : bounds.Admits (scan.run cursor))
    (later : ∀ value stop, scan.Returns cursor value stop → bounds.reaches stop →
      bounds.Admits ((next value).run (cursor.moveTo stop))) :
    bounds.Admits ((scan >>= next).run cursor) := by
  rw [run_bind]
  cases ended : (scan.run cursor).outcome with
  | error fault =>
    -- Nothing puts the cursor back on the way out of a fault.
    refine ⟨nofun, fun fault stopped => ?_, first.leaves⟩
    cases stopped
    exact first.stops _ ended
  | ok value =>
    have rest := later value _ ⟨ended, rfl⟩ (first.reaches value ended)
    exact ⟨rest.reaches, rest.stops, List.forall_mem_append.mpr ⟨first.leaves, rest.leaves⟩⟩

/-- Looking at the cursor leaves it where it is. -/
theorem admits_ask_bind {question : Cursor → α} {next : α → Scan β}
    (later : bounds.Admits ((next (question cursor)).run cursor)) :
    bounds.Admits ((ask question >>= next).run cursor) :=
  later

theorem admits_pure (here : bounds.reaches cursor.position) (value : α) :
    bounds.Admits ((pure value : Scan α).run cursor) :=
  ⟨fun _ _ => here, nofun, nofun⟩

theorem admits_raise (own : bounds.stops fault cursor.position) :
    bounds.Admits ((raise fault : Scan α).run cursor) := by
  refine ⟨nofun, fun other stopped => ?_, nofun⟩
  cases stopped
  exact own

theorem admits_emit (here : bounds.reaches cursor.position) (own : bounds.leaves event) :
    bounds.Admits ((emit event).run cursor) :=
  ⟨fun _ _ => here, nofun, List.forall_mem_singleton.mpr own⟩

theorem admits_lift {given : Except Fault α} (here : bounds.reaches cursor.position)
    (refused : ∀ fault, given = .error fault → bounds.stops fault cursor.position) :
    bounds.Admits ((lift given).run cursor) :=
  ⟨fun _ _ => here, refused, nofun⟩

theorem admits_unitAt (here : bounds.reaches cursor.position)
    (refused : ∀ fault, cursor.unitAt index = .error fault → bounds.stops fault cursor.position) :
    bounds.Admits ((unitAt index).run cursor) :=
  ⟨fun _ _ => here, refused, nofun⟩

theorem admits_advance (short : amount ≤ cursor.remaining)
    (there : bounds.reaches (cursor.position + amount)) :
    bounds.Admits ((advance (amount : Nat)).run cursor) := by
  rw [run_advance short]
  exact ⟨fun _ _ => there, nofun, nofun⟩

/-- An observer leaves no event but that it was told the span, and it lets the run go on or stops it
by itself. -/
theorem admits_notify (here : bounds.reaches cursor.position)
    (told : observer.FaultsWithin bounds.Tolerates)
    (own : ∀ sink, bounds.leaves
      (.observed sink span (cursor.buffer.textOf span) cursor.position)) :
    bounds.Admits ((notify observer span).run cursor) := by
  have recorded (sink : Sink) : bounds.Admits ((record sink span).run cursor) :=
    ⟨fun _ _ => here, nofun, List.forall_mem_singleton.mpr (own sink)⟩
  cases observer with
  | silent => exact admits_pure here ()
  | record id => exact recorded _
  | collect list => exact recorded _
  | interrupt id message =>
    refine admits_bind (recorded _) ?_
    intro _ stop _ there
    exact admits_raise (told id message rfl stop there)

section Combinators

variable (own : bounds.Own base)
include own

/-- The cursor may be put back to where it has been. -/
theorem admits_seek (back : bounds.reaches start) :
    bounds.Admits ((seek start).run (base.moveTo here)) := by
  have ahead := own.ahead back
  have low : (base.moveTo here).origin ≤ start := Nat.le_trans own.valid.1 ahead.1
  rw [run_seek low ahead.2]
  exact ⟨fun _ _ => back, nofun, nofun⟩

/-- The observer of a match is told its span where the match ends. -/
theorem admits_told (starts : bounds.reaches start) (stops : bounds.reaches stop)
    (forward : start ≤ stop) (told : observer.FaultsWithin bounds.Tolerates) :
    bounds.Admits ((notify observer ⟨start, stop⟩ >>= fun _ => pure (some ⟨start, stop⟩) :
      Matcher).run (base.moveTo stop)) := by
  refine admits_bind ?_ fun _ _ _ here => admits_pure here _
  exact admits_notify stops told fun sink => own.observed sink starts stops forward

theorem admits_conclude (starts : bounds.reaches start) (stops : bounds.reaches stop)
    (forward : start ≤ stop) (told : observer.FaultsWithin bounds.Tolerates) :
    bounds.Admits ((conclude start observer).run (base.moveTo stop)) := by
  unfold conclude
  exact admits_ask_bind (admits_told own starts stops forward told)

theorem admits_ask_predicate {predicate : Predicate}
    (asked : predicate.FaultsWithin bounds.Tolerates) (here : bounds.reaches start)
    (left : (base.moveTo start).remaining ≠ 0) :
    bounds.Admits (predicate.ask.run (base.moveTo start)) := by
  unfold Predicate.ask
  refine admits_bind (admits_unitAt here ?_) ?_
  · intro fault refused
    obtain rfl := Cursor.unitAt_refused left refused
    exact own.gone here refused
  · intro unit _ ran _
    obtain ⟨found, rfl⟩ := returns_unitAt.mp ran
    refine admits_ask_bind ?_
    refine admits_bind (admits_emit here (own.tested _ here found)) ?_
    intro _ stop _ there
    exact admits_lift there fun fault refused => asked unit fault refused stop there

theorem governs_unit (asked : predicate.FaultsWithin bounds.Tolerates)
    (told : observer.FaultsWithin bounds.Tolerates) :
    bounds.Governs base (unit predicate observer) := by
  intro start here
  unfold unit
  refine admits_ask_bind ?_
  split
  · exact admits_pure here _
  · rename_i left
    refine admits_bind (admits_ask_predicate own asked here left) ?_
    intro answer _ ran _
    obtain ⟨_, found, _, rfl⟩ := returns_ask_predicate.mp ran
    have there := own.next here found
    split
    · refine admits_ask_bind ?_
      refine admits_bind (admits_advance (Nat.one_le_iff_ne_zero.mpr left) there) ?_
      intro _ _ moved _
      obtain ⟨_, rfl⟩ := returns_advance.mp moved
      exact admits_conclude own here there (Nat.le_succ _) told
    · exact admits_pure here _

theorem governs_literal (told : observer.FaultsWithin bounds.Tolerates) :
    bounds.Governs base (literal text observer) := by
  intro start here
  unfold literal
  refine admits_ask_bind ?_
  split
  · rename_i stands
    have there := own.literal here stands
    refine admits_ask_bind ?_
    refine admits_bind (admits_advance (Cursor.length_le_of_startsWith stands) there) ?_
    intro _ _ moved _
    obtain ⟨_, rfl⟩ := returns_advance.mp moved
    exact admits_conclude own here there (Nat.le_add_right _ _) told
  · exact admits_pure here _

omit own in
private theorem admits_allMatch {parts : List Matcher}
    (each : ∀ part ∈ parts, bounds.Governs base part) (here : bounds.reaches start) :
    bounds.Admits ((allMatch parts).run (base.moveTo start)) := by
  induction parts generalizing start with
  | nil => exact admits_pure here _
  | cons part others ih =>
    unfold allMatch
    refine admits_bind (each part List.mem_cons_self start here) ?_
    intro matched _ _ between
    cases matched with
    | none => exact admits_pure between _
    | some span => exact ih (fun other member => each other (List.mem_cons_of_mem _ member)) between

theorem governs_seq {parts : List Matcher} (keep : ∀ part ∈ parts, Keeps base part)
    (each : ∀ part ∈ parts, bounds.Governs base part)
    (told : observer.FaultsWithin bounds.Tolerates) :
    bounds.Governs base (seq parts observer) := by
  intro start here
  unfold seq
  refine admits_ask_bind ?_
  refine admits_bind (admits_allMatch each here) ?_
  intro all stop ran there
  cases all with
  | true =>
    have forward := allMatch_ahead keep (own.ahead here) ran
    exact admits_conclude own here there forward.1 told
  | false =>
    refine admits_bind (admits_seek own here) ?_
    intro _ _ _ back
    exact admits_pure back _

/-- Where a body keeps the contract, the observer around it is told the span of what was just
consumed, although the span was made by the body. -/
theorem admits_observed (here : bounds.reaches start)
    (fulfil : ∀ result stop, body.Returns (base.moveTo start) result stop →
      Fulfilled (base.moveTo start) result stop)
    (admitted : bounds.Admits (body.run (base.moveTo start)))
    (told : observer.FaultsWithin bounds.Tolerates) :
    bounds.Admits ((observed body observer).run (base.moveTo start)) := by
  unfold observed
  refine admits_bind admitted ?_
  intro matched stop ran there
  cases matched with
  | none => exact admits_pure there _
  | some span =>
    obtain ⟨rfl, forward⟩ := fulfil _ _ ran
    exact admits_told own here there forward.1 told

private theorem admits_firstMatch {alternatives : List Matcher}
    (each : ∀ part ∈ alternatives, bounds.Governs base part) (here : bounds.reaches start) :
    bounds.Admits ((firstMatch start alternatives).run (base.moveTo start)) := by
  induction alternatives with
  | nil => exact admits_pure here _
  | cons part others ih =>
    unfold firstMatch
    refine admits_bind (each part List.mem_cons_self start here) ?_
    intro matched _ _ between
    cases matched with
    | some span => exact admits_pure between _
    | none =>
      refine admits_bind (admits_seek own here) ?_
      intro _ _ sought _
      obtain ⟨_, rfl⟩ := returns_seek.mp sought
      exact ih fun other member => each other (List.mem_cons_of_mem _ member)

theorem governs_choice {alternatives : List Matcher}
    (keep : ∀ part ∈ alternatives, Keeps base part)
    (each : ∀ part ∈ alternatives, bounds.Governs base part)
    (told : observer.FaultsWithin bounds.Tolerates) :
    bounds.Governs base (choice alternatives observer) := by
  intro start here
  rw [choice_eq_observed]
  refine admits_ask_bind ?_
  refine admits_observed own here ?_ (admits_firstMatch own each here) told
  exact fun result stop ran => firstMatch_fulfils keep (own.ahead here) ran

private theorem admits_round (keep : Keeps base body) (governed : bounds.Governs base body)
    (warns : WarnsWithin bounds.leaves base label body) (here : bounds.reaches start) :
    bounds.Admits ((round label body).run (base.moveTo start)) := by
  unfold Matcher.round
  refine admits_ask_bind ?_
  split
  · exact admits_pure here _
  · refine admits_bind (governed start here) ?_
    intro matched stop ran there
    cases matched with
    | none => exact admits_pure there _
    | some span =>
      have warned := warns start span stop (own.ahead here) ran
      obtain ⟨rfl, forward⟩ := keep start _ _ (own.ahead here) ran
      refine admits_bind (admits_lift there ?_) ?_
      · intro fault refused
        rw [length?_forward forward.1] at refused
        split at refused <;> cases refused
        exact own.long here there ‹_›
      · intro length _ lifted between
        obtain ⟨measured, rfl⟩ := returns_lift.mp lifted
        split
        · rename_i empty
          refine admits_bind (admits_emit between (warned (empty ▸ measured))) ?_
          intro _ _ _ after
          exact admits_pure after _
        · exact admits_pure between _

/-- With a round for each unit that remains, the rounds never run out. -/
private theorem admits_rounds (keep : Keeps base body) (governed : bounds.Governs base body)
    (warns : WarnsWithin bounds.leaves base label body) (here : bounds.reaches start)
    (enough : base.limit - start ≤ bound) :
    bounds.Admits ((rounds label body bound).run (base.moveTo start)) := by
  induction bound generalizing start with
  | zero =>
    unfold rounds
    refine admits_ask_bind ?_
    rw [if_pos (by simpa using enough)]
    exact admits_pure here _
  | succ bound ih =>
    rw [rounds_succ]
    refine admits_bind (admits_round own keep governed warns here) ?_
    intro more middle ran between
    cases more with
    | false => exact admits_pure between _
    | true =>
      have further := round_forward keep (own.ahead here) ran
      exact ih between (by omega)

theorem admits_exhaust (keep : Keeps base body) (governed : bounds.Governs base body)
    (warns : WarnsWithin bounds.leaves base label body) (here : bounds.reaches start) :
    bounds.Admits ((exhaust label body).run (base.moveTo start)) := by
  unfold exhaust
  refine admits_ask_bind ?_
  have low := Nat.le_trans own.valid.1 (own.ahead here).1
  exact admits_rounds own keep governed warns here (Nat.sub_le_sub_left low _)

/-- The observer of a repetition is told what the rounds consumed since an earlier position. -/
private theorem admits_exhaust_conclude (keep : Keeps base body)
    (governed : bounds.Governs base body) (warns : WarnsWithin bounds.leaves base label body)
    (told : observer.FaultsWithin bounds.Tolerates) (starts : bounds.reaches start)
    (here : bounds.reaches middle) (forward : start ≤ middle) :
    bounds.Admits ((exhaust label body >>= fun _ => conclude start observer).run
      (base.moveTo middle)) := by
  refine admits_bind (admits_exhaust own keep governed warns here) ?_
  intro _ stop ran there
  have further := rounds_ahead keep _ (own.ahead here) (returns_exhaust.mp ran)
  exact admits_conclude own starts there (Nat.le_trans forward further.1) told

theorem governs_star (keep : Keeps base body) (governed : bounds.Governs base body)
    (warns : WarnsWithin bounds.leaves base label body)
    (told : observer.FaultsWithin bounds.Tolerates) :
    bounds.Governs base (star label body observer) := by
  intro start here
  unfold Matcher.star
  refine admits_ask_bind ?_
  exact admits_exhaust_conclude own keep governed warns told here here (Nat.le_refl _)

theorem governs_plus (keep : Keeps base body) (governed : bounds.Governs base body)
    (warns : WarnsWithin bounds.leaves base label body)
    (told : observer.FaultsWithin bounds.Tolerates) :
    bounds.Governs base (plus label body observer) := by
  intro start here
  unfold plus
  refine admits_ask_bind ?_
  refine admits_bind (governed start here) ?_
  intro matched middle ran between
  cases matched with
  | none => exact admits_pure between _
  | some span =>
    have forward := (keep start _ _ (own.ahead here) ran).2
    exact admits_exhaust_conclude own keep governed warns told here between forward.1

theorem governs_optional (keep : Keeps base body) (governed : bounds.Governs base body)
    (told : observer.FaultsWithin bounds.Tolerates) :
    bounds.Governs base (Matcher.optional body observer) := by
  intro start here
  unfold Matcher.optional
  refine admits_bind (governed start here) ?_
  intro matched stop ran there
  cases matched with
  | some span =>
    obtain ⟨rfl, forward⟩ := keep start _ _ (own.ahead here) ran
    exact admits_told own here there forward.1 told
  | none =>
    refine admits_ask_bind ?_
    exact admits_conclude own there there (Nat.le_refl _) told

end Combinators

/-- The runs of a pattern keep the bounds, when its own steps and its parts do, and so does the
warning about any repetition in it that can warn. -/
theorem governs_run {call : κ → Matcher} {pattern : Pattern κ} (own : bounds.Own base)
    (met : pattern.Meets (bounds.parts base call))
    (warns : ∀ body ∈ pattern.repeatedBodies,
      WarnsWithin bounds.leaves base body.label (body.run call)) :
    bounds.Governs base (pattern.run call) := by
  have keep : ∀ part : Pattern κ, part.Meets (bounds.parts base call) →
      Keeps base (part.run call) := fun part met => keeps_run met fun target called => called.1
  have members {parts : List (Pattern κ)}
      (each : ∀ part ∈ parts, part.Meets (bounds.parts base call)) :
      ∀ matcher ∈ parts.map (Pattern.run call), Keeps base matcher :=
    List.forall_mem_map.mpr fun part member => keep part (each part member)
  induction met with
  | unit asked told => exact governs_unit own asked told
  | literal told => exact governs_literal own told
  | seq each told ih =>
    rw [Pattern.repeatedBodies, Pattern.repeatedBodiesEach_eq_flatMap,
      List.forall_mem_flatMap] at warns
    rw [Pattern.run, Pattern.runEach_eq_map]
    refine governs_seq own (members each) (List.forall_mem_map.mpr ?_) told
    exact fun part member => ih part member (warns part member)
  | choice each told ih =>
    rw [Pattern.repeatedBodies, Pattern.repeatedBodiesEach_eq_flatMap,
      List.forall_mem_flatMap] at warns
    rw [Pattern.run, Pattern.runEach_eq_map]
    refine governs_choice own (members each) (List.forall_mem_map.mpr ?_) told
    exact fun part member => ih part member (warns part member)
  | star inner told ih =>
    rw [Pattern.repeatedBodies, List.forall_mem_cons] at warns
    exact governs_star own (keep _ inner) (ih warns.2) warns.1 told
  | plus inner told ih =>
    rw [Pattern.repeatedBodies, List.forall_mem_cons] at warns
    exact governs_plus own (keep _ inner) (ih warns.2) warns.1 told
  | times inner told ih =>
    rw [Pattern.repeatedBodies] at warns
    rw [Pattern.run, times_eq_seq]
    refine governs_seq own ?_ ?_ told
    · intro part member
      rw [List.eq_of_mem_replicate member]
      exact keep _ inner
    · intro part member
      rw [List.eq_of_mem_replicate member]
      exact ih warns
  | optional inner told ih =>
    rw [Pattern.repeatedBodies] at warns
    exact governs_optional own (keep _ inner) (ih warns) told
  | observed inner told ih =>
    rw [Pattern.repeatedBodies] at warns
    intro start here
    refine admits_observed own here ?_ (ih warns start here) told
    exact fun result stop ran => keep _ inner start result stop (own.ahead here) ran
  | labelled _ ih =>
    rw [Pattern.repeatedBodies] at warns
    exact ih warns
  | callable called => exact called.2
  | inert tolerated => exact fun start here => admits_raise (tolerated _ start here)

section Ahead

variable {faults : Fault → Prop} {events : Event → Prop}

/-- Runs may come anywhere ahead, but they may stop only with some faults and leave only some
events. -/
def within (faults : Fault → Prop) (events : Event → Prop) (base : Cursor) : Bounds where
  reaches := base.Ahead
  stops fault _ := faults fault
  leaves := events

/-- The faults that are a pattern's own are allowed or cannot come up from the cursor: that a unit
is gone, which takes a window that is no longer in its buffer, and that a span is too long to have
a length. -/
structure OwnFaults (allowed : Fault → Prop) (base : Cursor) : Prop where
  valid : base.Valid
  gone : allowed .unitGone ∨ base.Inside
  long : allowed .lengthOverflow ∨ (base.remaining : Int) ≤ Span.maxLength

/-- What a pattern asks and tells is allowed: a predicate is asked about the unit at a position
ahead, and an observer is told a span ahead whose end is the position. -/
structure AsksAndTells (allowed : Event → Prop) (base : Cursor) : Prop where
  tested {here : Nat} {unit : Char} (shown : Bool) : base.Ahead here →
    (base.moveTo here).unitAt 0 = .ok unit → allowed (.tested here unit shown)
  observed {start stop : Nat} (sink : Sink) : base.Ahead start → (base.moveTo start).Ahead stop →
    allowed (.observed sink ⟨start, stop⟩ (base.buffer.textOf ⟨start, stop⟩) stop)

theorem within_own (stopping : OwnFaults faults base) (telling : AsksAndTells events base) :
    (within faults events base).Own base where
  valid := stopping.valid
  ahead here := here
  next := Cursor.ahead_next
  literal := Cursor.ahead_literal
  gone _ gone := by
    refine stopping.gone.resolve_right fun inside => ?_
    -- A unit of the window is missing only from a buffer that ends before the window does.
    have bound : base.limit ≤ base.buffer.size := inside.2
    obtain ⟨low, high⟩ := Cursor.unitAt_gone gone
    exact absurd (Nat.le_trans bound high) (Nat.not_le.mpr low)
  long starts stops overflow := by
    refine stopping.long.resolve_right fun short => ?_
    have low := starts.1
    have high := stops.2
    simp only [Cursor.remaining] at short
    omega
  tested := telling.tested
  observed sink starts stops forward := telling.observed sink starts ⟨forward, stops.2⟩

/-- Where a matcher comes is no question once it keeps the contract. -/
theorem governs_within_iff (keep : Keeps base matcher) :
    (within faults events base).Governs base matcher ↔
      ∀ start, base.Ahead start → matcher.FaultsWithin faults (base.moveTo start) ∧
        ∀ event ∈ (matcher.run (base.moveTo start)).trace, events event := by
  constructor
  · intro governed start ahead
    exact ⟨(governed start ahead).stops, (governed start ahead).leaves⟩
  · intro each start ahead
    obtain ⟨stops, leaves⟩ := each start ahead
    exact ⟨fun _ returned => ahead_of_keeps keep ahead ⟨returned, rfl⟩, stops, leaves⟩

end Ahead

end Bounds

end SpanLexer
