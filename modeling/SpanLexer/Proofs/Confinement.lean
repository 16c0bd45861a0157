import SpanLexer.Proofs.Retelling
import SpanLexer.Proofs.Subruns

/-!
The cursor stays in its window, whatever is done with it.

An `Orderly` scan moves the cursor by the cursor's own operations only, but with any targets, as
often as it likes and also after a refusal; it need not put the cursor back, and it may return
anything or stop with any fault. Patterns over such callables are orderly too, so a callable may
run patterns of its own. No orderly scan takes the cursor out of its window, and no sequence of
uses does. Patterns that put the cursor back therefore can always do so: when one of them stops
with a fault, it is the fault of a part it started or of its observer.
-/
namespace SpanLexer.Cursor

/-- A granted move leads to a position of the window. -/
theorem valid_seek {cursor : Cursor} (granted : cursor.seek target = .ok moved) :
    (cursor.moveTo moved.position).Valid := by
  unfold seek at granted
  split at granted
  · rename_i window
    cases granted
    have bounds : cursor.origin ≤ target.toNat ∧ target.toNat ≤ cursor.limit := by omega
    exact bounds
  · cases granted

/-- Consuming what remains leads no further than the limit. -/
theorem valid_advance {cursor : Cursor} (valid : cursor.Valid)
    (granted : cursor.advance amount = .ok moved) : (cursor.moveTo moved.position).Valid := by
  obtain ⟨low, high⟩ := valid
  unfold advance at granted
  split at granted
  · rename_i room
    cases granted
    simp only [remaining] at room
    have bounds : cursor.origin ≤ cursor.position + amount.toNat ∧
        cursor.position + amount.toNat ≤ cursor.limit := by omega
    exact bounds
  · cases granted

/-- A cursor is made in its window. -/
theorem valid_ofBuffer {buffer : Buffer} (made : ofBuffer buffer start stop = .ok cursor) :
    cursor.Valid := by
  unfold ofBuffer at made
  simp only at made
  split at made
  · rename_i window
    cases made
    have bound : start.toNat ≤ (stop.getD buffer.size).toNat := by omega
    exact ⟨Nat.le_refl _, bound⟩
  · cases made

end SpanLexer.Cursor

namespace SpanLexer.Scan

/-- Goes on from where the first scan left the cursor, also after a fault. -/
def rescue (scan : Scan α) (next : Except Fault α → Scan β) : Scan β where
  run cursor :=
    let first := scan.run cursor
    let second := (next first.outcome).run (cursor.moveTo first.position)
    ⟨second.outcome, second.position, first.trace ++ second.trace⟩

/-- The scan moves the cursor only by its operations. -/
inductive Orderly : {α : Type} → Scan α → Prop where
  | still {α : Type} {scan : Scan α}
      (stays : ∀ cursor, (scan.run cursor).position = cursor.position) : Orderly scan
  | seek (target : Int) : Orderly (Scan.seek target)
  | advance (amount : Int) : Orderly (Scan.advance amount)
  | rescue {α β : Type} {scan : Scan α} {next : Except Fault α → Scan β} (first : Orderly scan)
      (later : ∀ outcome, Orderly (next outcome)) : Orderly (scan.rescue next)

/-- From anywhere in the window, the scan leaves the cursor in it, also when it faults. -/
def Confined (scan : Scan α) : Prop :=
  ∀ cursor : Cursor, cursor.Valid → (cursor.moveTo (scan.run cursor).position).Valid

theorem move_refused {step : Cursor → Except Fault Cursor}
    (refused : ((move step).run cursor).outcome = .error fault) :
    ((move step).run cursor).position = cursor.position := by
  simp only [move] at refused ⊢
  split
  · rename_i moved granted
    rw [granted] at refused
    cases refused
  · rfl

theorem confined_move {step : Cursor → Except Fault Cursor}
    (checked : ∀ cursor moved, cursor.Valid → step cursor = .ok moved →
      (cursor.moveTo moved.position).Valid) : (move step).Confined := by
  intro cursor valid
  simp only [move]
  split
  · rename_i moved granted
    exact checked cursor moved valid granted
  · exact valid

/-- An orderly scan does not lead out of the window. -/
theorem confined_of_orderly {scan : Scan α} (orderly : scan.Orderly) : scan.Confined := by
  induction orderly with
  | still stays =>
    intro cursor valid
    rw [stays cursor]
    exact valid
  | seek target => exact confined_move fun _ _ _ granted => Cursor.valid_seek granted
  | advance amount => exact confined_move fun _ _ valid granted =>
      Cursor.valid_advance valid granted
  | rescue _ _ ihFirst ihLater =>
    intro cursor valid
    exact ihLater _ _ (ihFirst cursor valid)

/-- Stopping at a fault is one way of going on after it. -/
theorem bind_eq_rescue (scan : Scan α) (next : α → Scan β) :
    scan >>= next = scan.rescue fun
      | .error fault => raise fault
      | .ok value => next value := by
  ext1
  funext cursor
  rw [run_bind]
  cases ended : (scan.run cursor).outcome with
  | error fault => simp [Scan.rescue, ended, raise]
  | ok value => simp [Scan.rescue, ended]

theorem orderly_bind {scan : Scan α} {next : α → Scan β} (first : scan.Orderly)
    (later : ∀ value, (next value).Orderly) : (scan >>= next).Orderly := by
  rw [bind_eq_rescue]
  refine .rescue first fun outcome => ?_
  cases outcome with
  | error fault => exact .still fun _ => rfl
  | ok value => exact later value

end SpanLexer.Scan

namespace SpanLexer.Confinement
open Scan Matcher Subruns

theorem orderly_of_plain {scan : Scan α} (plain : scan.Plain) : scan.Orderly := by
  cases plain with
  | seek target => exact .seek target
  | advance amount => exact .advance amount
  | _ => exact .still fun _ => rfl

/-- Scans of which the first is orderly. -/
def orderly : Comparison where
  related one _ := one.Orderly
  plain := orderly_of_plain
  bind := orderly_bind

/-- Neither a predicate nor an observer moves the cursor. -/
theorem orderly_free {call : κ → Matcher} (each : ∀ target, (call target).Orderly) :
    (orderly.parts call id).Free where
  predicate _ _ := .still fun _ => rfl
  observer observer span := .still fun _ => by cases observer <;> rfl
  callable := each
  inert _ := .still fun _ => rfl

theorem orderly_run {call : κ → Matcher} (each : ∀ target, (call target).Orderly)
    (pattern : Pattern κ) : (pattern.run call).Orderly := by
  have met := Pattern.meets_of_free (orderly_free each) pattern
  exact Comparison.related_retell met

/-- A script is orderly when all that it runs is. -/
theorem perform_orderly {evaluate : Expr → Matcher}
    (each : ∀ expression, (evaluate expression).Orderly) (start : Nat) (actions : List Action) :
    (Action.perform evaluate start actions).Orderly := by
  induction actions with
  | nil => exact .still fun _ => rfl
  | cons action others ih =>
    cases action with
    | advance amount => exact orderly_bind (.advance amount) fun _ => ih
    | seek target => exact orderly_bind (.seek target) fun _ => ih
    | shift distance =>
      exact orderly_bind (.still fun _ => rfl) fun here => orderly_bind (.seek _) fun _ => ih
    | expect text =>
      refine orderly_bind (.still fun _ => rfl) fun stands => ?_
      split
      · exact ih
      · exact .still fun _ => rfl
    | peek index =>
      refine orderly_bind (.still fun _ => rfl) fun unit => ?_
      exact orderly_bind (.still fun _ => rfl) fun _ => ih
    | note text =>
      refine orderly_bind (.still fun _ => rfl) fun here => ?_
      exact orderly_bind (.still fun _ => rfl) fun _ => ih
    | raise message => exact .still fun _ => rfl
    | call expression =>
      refine orderly_bind (each expression) fun matched => ?_
      cases matched with
      | none => exact .still fun _ => rfl
      | some span => exact ih
    | giveUp => exact .still fun _ => rfl
    | give => exact .still fun _ => rfl
    | giveFrom since => exact .still fun _ => rfl
    | giveSpan first last => exact .still fun _ => rfl

theorem part_orderly {call : Callable → Matcher} (each : ∀ target, (call target).Orderly)
    (part : Part) : (part.run call).Orderly := by
  cases part with
  | pattern built => exact orderly_run each built
  | callable label target => exact each target
  | datum value => exact .still fun _ => rfl

/-- Callables are orderly, however deep their calls are nested. -/
theorem call_orderly (library : Library) (depth : Nat) (target : Callable) :
    (library.call depth target).Orderly := by
  induction depth generalizing target with
  | zero => exact .still fun _ => rfl
  | succ depth ih =>
    cases target with
    | late name =>
      rw [Library.call]
      split
      · exact .still fun _ => rfl
      · exact orderly_run ih _
    | script actions =>
      refine orderly_bind (.still fun _ => rfl) fun start => ?_
      refine perform_orderly (fun expression => ?_) start actions
      exact orderly_bind (.still fun _ => rfl) fun part => part_orderly ih part

theorem library_run_orderly (library : Library) (pattern : Pattern Callable) :
    (library.run pattern).Orderly :=
  orderly_bind (.still fun _ => rfl) fun _ => orderly_run (call_orderly library _) pattern

/-- Any callable that moves the cursor by its operations. -/
structure Procedure where
  matcher : Matcher
  orderly : matcher.Orderly

/-- An operation of a cursor. -/
inductive Operation where
  | seek (target : Int)
  | advance (amount : Int)
  | unitAt (index : Int)
  | startsWith (literal : List Char)
  | spanFrom (start : Int)

/-- What an operation does, whatever it answers. -/
def Operation.scan : Operation → Scan Unit
  | .seek target => Scan.seek target
  | .advance amount => Scan.advance amount
  | .unitAt index => do let _ ← Scan.unitAt index
  | .startsWith literal => do let _ ← Scan.startsWith literal
  | .spanFrom start => do let _ ← Scan.spanFrom start

/-- Something done with a cursor: an operation, a run of a pattern over any procedures, or any
change of the buffer behind it. -/
inductive Use where
  | operate (operation : Operation)
  | run (pattern : Pattern Procedure)
  | change (buffer : Buffer)

/-- The cursor after a use, whether it succeeded or not. -/
def Use.apply (cursor : Cursor) : Use → Cursor
  | .operate operation => cursor.moveTo (operation.scan.run cursor).position
  | .run pattern => cursor.moveTo ((pattern.run Procedure.matcher).run cursor).position
  | .change buffer => { cursor with buffer }

/-- The cursor after several uses. -/
def Use.applyAll (cursor : Cursor) (uses : List Use) : Cursor :=
  uses.foldl Use.apply cursor

theorem operation_confined (operation : Operation) : operation.scan.Confined := by
  apply confined_of_orderly
  cases operation with
  | seek target => exact .seek target
  | advance amount => exact .advance amount
  | unitAt index => exact orderly_bind (.still fun _ => rfl) fun _ => .still fun _ => rfl
  | startsWith literal => exact orderly_bind (.still fun _ => rfl) fun _ => .still fun _ => rfl
  | spanFrom start => exact orderly_bind (.still fun _ => rfl) fun _ => .still fun _ => rfl

/-- A refused operation leaves the cursor where it was. -/
theorem operation_refused {operation : Operation}
    (refused : (operation.scan.run cursor).outcome = .error fault) :
    (operation.scan.run cursor).position = cursor.position := by
  cases operation with
  | seek target => exact move_refused refused
  | advance amount => exact move_refused refused
  | unitAt index =>
    rcases fault_of_bind refused with gone | ⟨_, _, _, impossible⟩
    · rw [Operation.scan, run_bind, gone]
      rfl
    · cases impossible
  | startsWith literal => cases refused
  | spanFrom start => cases refused

/-- A use keeps the cursor in its window, and the window as it is. -/
theorem apply_keeps_window (valid : cursor.Valid) (use : Use) :
    (use.apply cursor).Valid ∧ (use.apply cursor).origin = cursor.origin ∧
      (use.apply cursor).limit = cursor.limit := by
  cases use with
  | operate operation => exact ⟨operation_confined operation cursor valid, rfl, rfl⟩
  | run pattern =>
    have confined := confined_of_orderly (orderly_run Procedure.orderly pattern)
    exact ⟨confined cursor valid, rfl, rfl⟩
  | change buffer => exact ⟨valid, rfl, rfl⟩

/-- So does any sequence of uses. -/
theorem uses_keep_window (valid : cursor.Valid) (uses : List Use) :
    (Use.applyAll cursor uses).Valid ∧ (Use.applyAll cursor uses).origin = cursor.origin ∧
      (Use.applyAll cursor uses).limit = cursor.limit := by
  induction uses generalizing cursor with
  | nil => exact ⟨valid, rfl, rfl⟩
  | cons use others ih =>
    obtain ⟨later, origin, limit⟩ := apply_keeps_window valid use
    rw [← origin, ← limit]
    exact ih later

/-- The outer run stopped because the inner one did: with its fault, where it left the cursor, and
with nothing to follow. -/
structure FaultOf (inner : Run α) (outer : Run β) : Prop where
  fault : ∃ fault, inner.outcome = .error fault ∧ outer.outcome = .error fault
  position : outer.position = inner.position
  trace : inner.trace <:+ outer.trace

theorem faultOf_self {stopped : Run α} (own : stopped.outcome = .error fault) :
    FaultOf stopped stopped :=
  ⟨⟨fault, own, own⟩, rfl, List.suffix_refl _⟩

theorem faultOf_first {scan : Scan α} {next : α → Scan β} {inner : Run γ}
    (first : FaultOf inner (scan.run cursor)) :
    FaultOf inner ((scan >>= next).run cursor) := by
  obtain ⟨⟨fault, own, stopped⟩, position, trace⟩ := first
  rw [run_bind, stopped]
  exact ⟨⟨fault, own, rfl⟩, position, trace⟩

theorem faultOf_next {scan : Scan α} {next : α → Scan β} {inner : Run γ}
    (ran : scan.Returns cursor value middle)
    (later : FaultOf inner ((next value).run (cursor.moveTo middle))) :
    FaultOf inner ((scan >>= next).run cursor) := by
  obtain ⟨returned, rfl⟩ := ran
  rw [run_bind, returned]
  exact ⟨later.fault, later.position, later.trace.trans (List.suffix_append _ _)⟩

variable {call : κ → Matcher} {base : Cursor}

/-- When parts in turn stop with a fault, the ones before the culprit have matched. -/
theorem allMatch_fault {parts : List (Pattern κ)}
    (stopped : ((allMatch (parts.map (Pattern.run call))).run (base.moveTo start)).outcome =
      .error fault) :
    ∃ before part after here, parts = before ++ part :: after ∧
      (allMatch (before.map (Pattern.run call))).Returns (base.moveTo start) true here ∧
      FaultOf ((part.run call).run (base.moveTo here))
        ((allMatch (parts.map (Pattern.run call))).run (base.moveTo start)) := by
  induction parts generalizing start with
  | nil => cases stopped
  | cons part others ih =>
    rcases fault_of_bind stopped with own | ⟨matched, middle, ran, later⟩
    · exact ⟨[], part, others, start, rfl, returns_allMatch_nil.mpr ⟨rfl, rfl⟩,
        faultOf_first (faultOf_self own)⟩
    · cases matched with
      | none => cases later
      | some span =>
        obtain ⟨before, culprit, after, here, rfl, matched, caused⟩ := ih later
        refine ⟨part :: before, culprit, after, here, rfl, ?_, faultOf_next ran caused⟩
        exact returns_bind.mpr ⟨some span, middle, ran, matched⟩

/-- When alternatives stop with a fault, the ones before the culprit have missed, and it was
started where they were. -/
theorem firstMatch_fault {alternatives : List (Pattern κ)} (low : base.origin ≤ start)
    (high : start ≤ base.limit)
    (stopped : ((firstMatch start (alternatives.map (Pattern.run call))).run
      (base.moveTo start)).outcome = .error fault) :
    ∃ before part after, alternatives = before ++ part :: after ∧
      (firstMatch start (before.map (Pattern.run call))).Returns (base.moveTo start) none start ∧
      FaultOf ((part.run call).run (base.moveTo start))
        ((firstMatch start (alternatives.map (Pattern.run call))).run (base.moveTo start)) := by
  induction alternatives with
  | nil => cases stopped
  | cons part others ih =>
    rcases fault_of_bind stopped with own | ⟨matched, middle, ran, later⟩
    · exact ⟨[], part, others, rfl, returns_firstMatch_nil.mpr ⟨rfl, rfl⟩,
        faultOf_first (faultOf_self own)⟩
    · cases matched with
      | some span => cases later
      | none =>
        -- Going back to the start succeeds from wherever the alternative left the cursor.
        have back : (Scan.seek start).run (base.moveTo middle) = ⟨.ok (), start, []⟩ :=
          run_seek low high
        rw [Cursor.moveTo_moveTo] at later
        rcases fault_of_bind later with refused | ⟨_, _, sought, later⟩
        · rw [back] at refused
          cases refused
        · obtain ⟨_, rfl⟩ := returns_seek.mp sought
          obtain ⟨before, culprit, after, rfl, missed, caused⟩ := ih later
          refine ⟨part :: before, culprit, after, rfl, ?_,
            faultOf_next ran (faultOf_next sought caused)⟩
          exact returns_bind.mpr ⟨none, middle, ran, returns_bind.mpr ⟨(), _, sought, missed⟩⟩

/-- After all parts were tried, only the observer can stop the run. -/
private theorem ending_fault (low : base.origin ≤ start) (high : start ≤ base.limit) {all : Bool}
    (stopped : ((if all = true then conclude start observer
      else do seek start; return none : Matcher).run (base.moveTo here)).outcome = .error fault) :
    ∃ span, FaultOf ((notify observer span).run (base.moveTo here))
      ((if all = true then conclude start observer
        else do seek start; return none : Matcher).run (base.moveTo here)) := by
  cases all with
  | true =>
    rcases fault_of_bind stopped with impossible | ⟨span, _, asked, stopped⟩
    · cases impossible
    · obtain ⟨rfl, rfl⟩ := returns_spanFrom.mp asked
      rcases fault_of_bind stopped with raised | ⟨_, _, _, impossible⟩
      · exact ⟨_, faultOf_next asked (faultOf_first (faultOf_self raised))⟩
      · cases impossible
  | false =>
    have back : (Scan.seek start).run (base.moveTo here) = ⟨.ok (), start, []⟩ :=
      run_seek low high
    rcases fault_of_bind stopped with refused | ⟨_, _, _, impossible⟩
    · rw [back] at refused
      cases refused
    · cases impossible

/-- When a sequence stops with a fault, it is that of a part or of the observer. -/
theorem seq_fault {parts : List (Pattern κ)} (valid : base.Valid)
    (stopped : ((seq (parts.map (Pattern.run call)) observer).run base).outcome = .error fault) :
    (∃ before part after here, parts = before ++ part :: after ∧
      (allMatch (before.map (Pattern.run call))).Returns base true here ∧
      FaultOf ((part.run call).run (base.moveTo here))
        ((seq (parts.map (Pattern.run call)) observer).run base)) ∨
    ∃ span here, FaultOf ((notify observer span).run (base.moveTo here))
      ((seq (parts.map (Pattern.run call)) observer).run base) := by
  rcases fault_of_bind stopped with impossible | ⟨start, _, asked, stopped⟩
  · cases impossible
  · obtain ⟨rfl, rfl⟩ := returns_position.mp asked
    rcases fault_of_bind stopped with inner | ⟨all, here, ran, stopped⟩
    · obtain ⟨before, part, after, here, split, matched, caused⟩ := allMatch_fault inner
      exact .inl ⟨before, part, after, here, split, matched,
        faultOf_next asked (faultOf_first caused)⟩
    · rw [Cursor.moveTo_moveTo] at stopped
      obtain ⟨span, caused⟩ := ending_fault valid.1 valid.2 stopped
      exact .inr ⟨span, here, faultOf_next asked (faultOf_next ran caused)⟩

/-- When a choice stops with a fault, it is that of an alternative or of the observer. -/
theorem choice_fault {alternatives : List (Pattern κ)} (valid : base.Valid)
    (stopped : ((choice (alternatives.map (Pattern.run call)) observer).run base).outcome =
      .error fault) :
    (∃ before part after, alternatives = before ++ part :: after ∧
      (firstMatch base.position (before.map (Pattern.run call))).Returns base none base.position ∧
      FaultOf ((part.run call).run base)
        ((choice (alternatives.map (Pattern.run call)) observer).run base)) ∨
    ∃ span here, FaultOf ((notify observer span).run (base.moveTo here))
      ((choice (alternatives.map (Pattern.run call)) observer).run base) := by
  rcases fault_of_bind stopped with impossible | ⟨start, _, asked, stopped⟩
  · cases impossible
  · obtain ⟨rfl, rfl⟩ := returns_position.mp asked
    rcases fault_of_bind stopped with inner | ⟨matched, here, ran, stopped⟩
    · obtain ⟨before, part, after, split, missed, caused⟩ :=
        firstMatch_fault valid.1 valid.2 inner
      exact .inl ⟨before, part, after, split, missed, faultOf_next asked (faultOf_first caused)⟩
    · cases matched with
      | none => cases stopped
      | some span =>
        rcases fault_of_bind stopped with raised | ⟨_, _, _, impossible⟩
        · exact .inr ⟨span, here,
            faultOf_next asked (faultOf_next ran (faultOf_first (faultOf_self raised)))⟩
        · cases impossible

/-- The pattern puts the cursor back when it misses, and tells the observer when it matches. -/
inductive PutsBack : Pattern κ → Observer → Prop where
  | seq : PutsBack (.seq parts observer) observer
  | choice : PutsBack (.choice alternatives observer) observer
  | times : PutsBack (.times body count observer) observer

/-- Putting the cursor back never fails: a pattern that does it stops only with the fault of a part
it has started, or with that of its observer. -/
theorem fault_of_putsBack {pattern : Pattern κ} (back : PutsBack pattern observer)
    (valid : base.Valid) (stopped : ((pattern.run call).run base).outcome = .error fault) :
    (∃ part here, StartsPart call base pattern base.position part here ∧
      FaultOf ((part.run call).run (base.moveTo here)) ((pattern.run call).run base)) ∨
    ∃ span here, FaultOf ((notify observer span).run (base.moveTo here))
      ((pattern.run call).run base) := by
  cases back with
  | seq =>
    rw [Pattern.run, Pattern.runEach_eq_map] at stopped ⊢
    refine (seq_fault valid stopped).imp_left ?_
    rintro ⟨before, part, after, here, rfl, matched, caused⟩
    exact ⟨part, here, .seq before after matched, caused⟩
  | choice =>
    rw [Pattern.run, Pattern.runEach_eq_map] at stopped ⊢
    refine (choice_fault valid stopped).imp_left ?_
    rintro ⟨before, part, after, rfl, missed, caused⟩
    exact ⟨part, base.position, .choice before after missed, caused⟩
  | @times body count =>
    rw [Pattern.run, times_eq_seq, ← List.map_replicate] at stopped ⊢
    refine (seq_fault valid stopped).imp_left ?_
    rintro ⟨before, part, after, here, split, matched, caused⟩
    obtain ⟨size, copies, copy⟩ := List.append_eq_replicate_iff.mp split.symm
    obtain ⟨rfl, _⟩ := List.cons.inj (copy.trans List.replicate_succ)
    rw [copies, List.map_replicate, ← allTimes_eq_allMatch] at matched
    refine ⟨part, here, .times matched ?_, caused⟩
    rw [List.length_cons] at size
    omega

end SpanLexer.Confinement
