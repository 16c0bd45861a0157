import SpanLexer.Proofs.Confinement
import SpanLexer.Session.Step

/-!
Cursors in a session.

However patterns, scripts and changes of buffers follow one another, every cursor of a session
stays in its window, and its window stays what it was until another cursor takes its name.
`Revised` says once what a step can do to the cursors; all of this follows from it. A run moves
its cursor and may add to lists, but it changes no buffer, and a refused question changes nothing.
-/
namespace SpanLexer

/-- The position is in the window. -/
def Placement.InWindow (placement : Placement) : Prop :=
  placement.origin ≤ placement.position ∧ placement.position ≤ placement.limit

/-- The step puts a cursor under the name. -/
def Step.Places (step : Step) (name : String) : Prop :=
  ∃ buffer start stop, step = .cursor name buffer start stop

namespace Sessions
open Confinement Session Subruns

variable {session next : Session} {step : Step} {placement : Placement}

/-- A name stands for what was given to it last, and other names for what they did before. -/
theorem lookup_define (table : List (String × α)) (name other : String) (value : α) :
    (define table name value).lookup other =
      if other = name then some value else table.lookup other := by
  by_cases same : other = name
  · simp [define, same]
  · have apart : (other == name) = false := beq_eq_false_iff_ne.mpr same
    rw [if_neg same]
    simp only [define, List.lookup_cons, apart]
    induction table with
    | nil => rfl
    | cons entry table ih =>
      obtain ⟨key, old⟩ := entry
      by_cases hidden : key = name
      · subst hidden
        simpa [List.lookup_cons, apart] using ih
      · by_cases sought : other = key
        · simp [sought, hidden]
        · simpa [List.lookup_cons, hidden, beq_eq_false_iff_ne.mpr sought] using ih

/-- What changes nothing but the lists changes nothing else when it is done again and again. -/
theorem foldl_lists {act : Session → β → Session}
    (frame : ∀ session item, ∃ lists, act session item = { session with lists }) (items : List β)
    (session : Session) : ∃ lists, items.foldl act session = { session with lists } := by
  induction items generalizing session with
  | nil => exact ⟨session.lists, rfl⟩
  | cons item items ih =>
    obtain ⟨lists, once⟩ := frame session item
    obtain ⟨later, folded⟩ := ih (act session item)
    exact ⟨later, by rw [List.foldl_cons, folded, once]⟩

theorem openList_frame (session : Session) (name : String) :
    ∃ lists, session.openList name = { session with lists } := by
  unfold openList
  split
  · exact ⟨session.lists, rfl⟩
  · exact ⟨_, rfl⟩

theorem absorb_frame (session : Session) (event : Event) :
    ∃ lists, session.absorb event = { session with lists } := by
  unfold absorb
  split
  · exact openList_frame session _
  · exact ⟨_, rfl⟩
  · exact ⟨session.lists, rfl⟩

private theorem ok_of_bind {given : Except Fault α} {next : α → Except Fault β}
    (made : given >>= next = .ok result) :
    ∃ value, given = .ok value ∧ next value = .ok result := by
  cases given with
  | error fault => cases made
  | ok value => exact ⟨value, rfl, made⟩

theorem lookup_of_find {table : List (String × α)} (found : find table name = .ok value) :
    table.lookup name = some value := by
  unfold find at found
  split at found
  · rename_i entry
    cases found
    exact entry
  · cases found

theorem locate_cursors (located : session.locate buffer = .ok (next, source)) :
    next.cursors = session.cursors := by
  cases buffer with
  | fresh offer =>
    simp only [locate] at located
    split at located <;> cases located
    rfl
  | named name =>
    simp only [locate] at located
    cases found : find session.buffers name with
    | error fault => simp [found, Except.map] at located
    | ok place =>
      simp only [found, Except.map, Except.ok.injEq, Prod.mk.injEq] at located
      rw [← located.1]

/-- A cursor is put at the start of a window. -/
theorem place_inWindow (placed : session.place buffer start stop = .ok (next, placement)) :
    next.cursors = session.cursors ∧ placement.InWindow := by
  obtain ⟨⟨later, source⟩, located, placed⟩ := ok_of_bind placed
  obtain ⟨contents, _, placed⟩ := ok_of_bind placed
  obtain ⟨cursor, made, placed⟩ := ok_of_bind placed
  cases placed
  exact ⟨locate_cursors located, Cursor.valid_ofBuffer made⟩

/-- What a step can make of the cursors of a session: it puts one under a name, or moves one that
has a name already within its window. -/
inductive Revised (session : Session) (step : Step) : List (String × Placement) → Prop where
  | kept : Revised session step session.cursors
  | placed {placement : Placement} (places : step.Places name) (inside : placement.InWindow) :
      Revised session step (define session.cursors name placement)
  | moved {placement : Placement} (found : session.cursors.lookup name = some placement)
      (position : Nat)
      (stays : placement.InWindow → Placement.InWindow { placement with position }) :
      Revised session step (define session.cursors name { placement with position })

theorem ask_revises (found : session.cursors.lookup name = some placement) (query : Query)
    (step : Step) : Revised session step (session.ask name placement query).1.cursors := by
  cases query with
  | seek target =>
    simp only [ask]
    split
    · exact .kept
    · rename_i moved granted
      exact .moved found _ fun _ => Cursor.valid_seek granted
  | advance amount =>
    simp only [ask]
    split
    · exact .kept
    · rename_i moved granted
      refine .moved found _ fun inside => ?_
      have valid : (session.cursorAt placement).Valid := inside
      exact Cursor.valid_advance valid granted
  | spanFrom start as =>
    cases as <;> exact .kept
  | _ => exact .kept

/-- A run takes the cursor nowhere but within its window. -/
theorem runAt_inWindow (pattern : Pattern Callable) (inside : placement.InWindow) :
    Placement.InWindow
      { placement with position := (session.runAt pattern placement).2.position } := by
  have confined := Scan.confined_of_orderly (library_run_orderly session.library pattern)
  exact confined (session.cursorAt placement) inside

theorem runAt_frame (session : Session) (pattern : Pattern Callable) (placement : Placement) :
    ∃ lists, (session.runAt pattern placement).1 = { session with lists } :=
  foldl_lists absorb_frame _ session

@[simp] theorem keepSpan_cursors (name : Option String) (span : Option PlacedSpan) :
    (session.keepSpan name span).cursors = session.cursors := by
  cases name <;> rfl

@[simp] theorem keepSpan_sources (name : Option String) (span : Option PlacedSpan) :
    (session.keepSpan name span).sources = session.sources := by
  cases name <;> rfl

theorem change_cursors (changed : session.change name edit = .ok (next, answer)) :
    next.cursors = session.cursors := by
  obtain ⟨place, _, changed⟩ := ok_of_bind changed
  obtain ⟨source, _, changed⟩ := ok_of_bind changed
  cases changed
  rfl

/-- A run moves its cursor and changes no other and no buffer. -/
theorem attempt_run (done : session.attempt (.run patternName name as) = .ok (next, answer)) :
    ∃ pattern placement, session.cursors.lookup name = some placement ∧
      next.cursors = define session.cursors name
        { placement with position := (session.runAt pattern placement).2.position } ∧
      next.sources = session.sources := by
  obtain ⟨pattern, _, done⟩ := ok_of_bind done
  obtain ⟨placement, found, done⟩ := ok_of_bind done
  obtain ⟨lists, framed⟩ := runAt_frame session pattern placement
  refine ⟨pattern, placement, lookup_of_find found, ?_⟩
  simp only [framed] at done
  split at done
  · cases done
    exact ⟨rfl, rfl⟩
  · cases done
    exact ⟨keepSpan_cursors _ _, keepSpan_sources _ _⟩

theorem attempt_revises (done : session.attempt step = .ok (next, answer)) :
    Revised session step next.cursors := by
  cases step with
  | buffer name buffer =>
    obtain ⟨⟨later, source⟩, located, done⟩ := ok_of_bind done
    cases done
    simp only [locate_cursors located]
    exact .kept
  | cursor name buffer start stop =>
    obtain ⟨⟨later, placement⟩, placed, done⟩ := ok_of_bind done
    obtain ⟨same, inside⟩ := place_inWindow placed
    cases done
    simp only [same]
    exact .placed ⟨buffer, start, stop, rfl⟩ inside
  | pattern name expression =>
    let built := expression.buildPattern session.library
    obtain ⟨pattern, _, done⟩ := ok_of_bind done
    obtain ⟨lists, opened⟩ := foldl_lists openList_frame built.opened session
    cases done
    rw [opened]
    exact .kept
  | run patternName name as =>
    obtain ⟨pattern, placement, found, cursors, _⟩ := attempt_run done
    rw [cursors]
    exact .moved found _ fun inside => runAt_inWindow pattern inside
  | span name buffer start stop =>
    obtain ⟨⟨later, source⟩, located, done⟩ := ok_of_bind done
    obtain ⟨report, _, done⟩ := ok_of_bind done
    cases done
    rw [keepSpan_cursors, locate_cursors located]
    exact .kept
  | inspect name =>
    obtain ⟨placed, _, done⟩ := ok_of_bind done
    cases placed with
    | none => cases done; exact .kept
    | some placed =>
      obtain ⟨_, _, done⟩ := ok_of_bind done
      cases done
      exact .kept
  | equal first second =>
    obtain ⟨_, _, done⟩ := ok_of_bind done
    obtain ⟨_, _, done⟩ := ok_of_bind done
    cases done
    exact .kept
  | distinct names =>
    obtain ⟨_, _, done⟩ := ok_of_bind done
    cases done
    exact .kept
  | poke name index value =>
    rw [attempt] at done
    rw [change_cursors done]
    exact .kept
  | truncate name stop =>
    rw [attempt] at done
    rw [change_cursors done]
    exact .kept
  | extend name octets =>
    rw [attempt] at done
    rw [change_cursors done]
    exact .kept
  | collected name =>
    cases done
    exact .kept
  | query name query =>
    obtain ⟨placement, found, done⟩ := ok_of_bind done
    have asked : session.ask name placement query = (next, answer) := Except.ok.inj done
    have revised := ask_revises (lookup_of_find found) query (.query name query)
    rw [asked] at revised
    exact revised

/-- A step fails and changes nothing, or it is performed. -/
theorem step_cases (session : Session) (step : Step) :
    (∃ fault, session.step step = (session, .failed fault)) ∨
      session.attempt step = .ok (session.step step) := by
  unfold Session.step
  cases session.attempt step with
  | error fault => exact .inl ⟨fault, rfl⟩
  | ok result => exact .inr rfl

theorem step_revises (session : Session) (step : Step) :
    Revised session step (session.step step).1.cursors := by
  rcases step_cases session step with ⟨fault, failed⟩ | done
  · rw [failed]
    exact .kept
  · exact attempt_revises done

/-- Every cursor of the session is in its window. -/
def InWindows (session : Session) : Prop :=
  ∀ name placement, session.cursors.lookup name = some placement → placement.InWindow

theorem revised_inWindows (inside : InWindows session) (revised : Revised session step table)
    (name : String) (found : table.lookup name = some placement) : placement.InWindow := by
  cases revised with
  | kept => exact inside name placement found
  | placed _ within =>
    rw [lookup_define] at found
    split at found
    · cases found
      exact within
    · exact inside name placement found
  | moved before position stays =>
    rw [lookup_define] at found
    split at found
    · cases found
      exact stays (inside _ _ before)
    · exact inside name placement found

/-- A cursor keeps its source and its window until its name is given to another. -/
theorem revised_window (revised : Revised session step table)
    (found : session.cursors.lookup name = some placement) (other : ¬ step.Places name) :
    ∃ position, table.lookup name = some { placement with position } := by
  cases revised with
  | kept => exact ⟨placement.position, found⟩
  | @placed taken _ places =>
    have different : name ≠ taken := fun same => other (same ▸ places)
    exact ⟨placement.position, by rw [lookup_define, if_neg different]; exact found⟩
  | @moved taken given before position =>
    by_cases same : name = taken
    · subst same
      rw [found] at before
      cases before
      exact ⟨position, by rw [lookup_define, if_pos rfl]⟩
    · exact ⟨placement.position, by rw [lookup_define, if_neg same]; exact found⟩

theorem steps_inWindows (inside : InWindows session) (steps : List Step) :
    InWindows (session.steps steps).1 := by
  induction steps generalizing session with
  | nil => exact inside
  | cons step others ih =>
    apply ih
    intro name placement found
    exact revised_inWindows inside (step_revises session step) name found

theorem steps_window (found : session.cursors.lookup name = some placement) (steps : List Step)
    (other : ∀ step ∈ steps, ¬ step.Places name) :
    ∃ position, (session.steps steps).1.cursors.lookup name = some { placement with position } := by
  induction steps generalizing session placement with
  | nil => exact ⟨placement.position, found⟩
  | cons step others ih =>
    obtain ⟨position, moved⟩ :=
      revised_window (step_revises session step) found (other step List.mem_cons_self)
    obtain ⟨last, kept⟩ := ih moved fun later member => other later (List.mem_cons_of_mem _ member)
    exact ⟨last, kept⟩

/-- A refused question changes nothing. -/
theorem ask_refused (refused : session.ask name placement query =
    (next, .replied (.error fault) position)) : next = session ∧ position = placement.position := by
  cases query with
  | seek target =>
    simp only [ask] at refused
    split at refused
    · cases refused; exact ⟨rfl, rfl⟩
    · cases refused
  | advance amount =>
    simp only [ask] at refused
    split at refused
    · cases refused; exact ⟨rfl, rfl⟩
    · cases refused
  | unitAt index =>
    simp only [ask, Prod.mk.injEq, Answer.replied.injEq] at refused
    exact ⟨refused.1.symm, refused.2.2.symm⟩
  | _ => cases refused

theorem ask_sources (session : Session) (name : String) (placement : Placement) (query : Query) :
    (session.ask name placement query).1.sources = session.sources := by
  cases query with
  | seek target => simp only [ask]; split <;> rfl
  | advance amount => simp only [ask]; split <;> rfl
  | spanFrom start as => exact keepSpan_sources _ _
  | _ => rfl

theorem query_refused (found : session.cursors.lookup name = some placement)
    (refused : session.step (.query name query) = (next, .replied (.error fault) position)) :
    next = session ∧ position = placement.position := by
  rcases step_cases session (.query name query) with ⟨_, failed⟩ | done
  · rw [failed] at refused
    cases refused
  · obtain ⟨asked, sought, done⟩ := ok_of_bind done
    have same := lookup_of_find sought
    rw [found] at same
    cases same
    rw [refused] at done
    exact ask_refused (Except.ok.inj done)

theorem query_sources (session : Session) (name : String) (query : Query) :
    (session.step (.query name query)).1.sources = session.sources := by
  rcases step_cases session (.query name query) with ⟨_, failed⟩ | done
  · rw [failed]
  · obtain ⟨placement, _, done⟩ := ok_of_bind done
    rw [← Except.ok.inj done]
    exact ask_sources session name placement query

theorem run_sources (session : Session) (pattern name : String) (as : Option String) :
    (session.step (.run pattern name as)).1.sources = session.sources := by
  rcases step_cases session (.run pattern name as) with ⟨_, failed⟩ | done
  · rw [failed]
  · obtain ⟨_, _, _, _, same⟩ := attempt_run done
    exact same

/-- A cursor that was made stays in its window, which stays the same, through any uses: operations
with any numbers, runs of patterns over any procedures and changes of the buffer. A refused
operation leaves it where it was, no run changes its buffer, and a pattern that puts the cursor
back stops only because a part it has started or its observer does. The same is true of every
cursor of a session, until another takes its name: a refused question changes nothing of the
session, and neither a question nor a run changes a buffer. -/
theorem cursors_keep_their_windows (buffer : Buffer) (start : Int) (stop : Option Int)
    (cursor : Cursor) (made : Cursor.ofBuffer buffer start stop = .ok cursor) :
    (∀ uses later, Use.applyAll cursor uses = later →
      later.Valid ∧ later.origin = cursor.origin ∧ later.limit = cursor.limit ∧
      (∀ operation fault, (operation.scan.run later).outcome = .error fault →
        (Use.operate operation).apply later = later) ∧
      (∀ pattern, ((Use.run pattern).apply later).buffer = later.buffer) ∧
      ∀ pattern observer fault, PutsBack pattern observer →
        ((pattern.run Procedure.matcher).run later).outcome = .error fault →
        (∃ part here, StartsPart Procedure.matcher later pattern later.position part here ∧
          FaultOf ((part.run Procedure.matcher).run (later.moveTo here))
            ((pattern.run Procedure.matcher).run later)) ∨
        ∃ span here, FaultOf ((Scan.notify observer span).run (later.moveTo here))
          ((pattern.run Procedure.matcher).run later)) ∧
    (∀ steps session, (Session.empty.steps steps).1 = session →
      ∀ name placement, session.cursors.lookup name = some placement →
        (∀ others, (∀ step ∈ others, ¬ step.Places name) →
          ∃ position, placement.origin ≤ position ∧ position ≤ placement.limit ∧
            (session.steps others).1.cursors.lookup name = some { placement with position }) ∧
        (∀ query next fault position,
          session.step (.query name query) = (next, .replied (.error fault) position) →
            next = session ∧ position = placement.position) ∧
        (∀ query, (session.step (.query name query)).1.sources = session.sources) ∧
        ∀ pattern as, (session.step (.run pattern name as)).1.sources = session.sources) := by
  refine ⟨?_, ?_⟩
  · rintro uses later rfl
    obtain ⟨valid, origin, limit⟩ := uses_keep_window (Cursor.valid_ofBuffer made) uses
    refine ⟨valid, origin, limit, ?_, fun _ => rfl, ?_⟩
    · intro operation fault refused
      rw [Use.apply, operation_refused refused, Cursor.moveTo_self]
    · intro pattern observer fault back stopped
      exact fault_of_putsBack back valid stopped
  · rintro steps session rfl name placement found
    have inside := steps_inWindows (fun _ _ => nofun : InWindows Session.empty) steps
    refine ⟨?_, ?_, query_sources _ name, fun pattern => run_sources _ pattern name⟩
    · intro others free
      obtain ⟨position, kept⟩ := steps_window found others free
      obtain ⟨low, high⟩ := steps_inWindows inside others name _ kept
      exact ⟨position, low, high, kept⟩
    · intro query next fault position refused
      exact query_refused found refused

/-- Goes to a position, does not come back and claims to have matched something else. -/
def wander : Procedure :=
  ⟨do Scan.seek 2; return some ⟨5, 1⟩, Scan.orderly_bind (.seek 2) fun _ => .still fun _ => rfl⟩

/-- Consumes a unit and then stops the run. -/
def stray : Procedure :=
  ⟨do Scan.advance 1; Scan.raise (.raised "lost"),
    Scan.orderly_bind (.advance 1) fun _ => .still fun _ => rfl⟩

/-- A sequence that puts the cursor back, a run that does not, a run that faults, a buffer that is
cut off before the cursor, and a refused move. -/
def roughUses : List Use :=
  [.run (.seq [.callable "wander" wander, .literal ['z'] .silent] .silent),
    .run (.callable "wander" wander), .run (.seq [.callable "stray" stray] .silent),
    .change (.octets .growable [97]), .operate (.seek 9)]

/-- Octets that can grow. -/
def growingOctets : Buffer :=
  .octets .growable [97, 98, 59]

/-- Names growable octets and puts a cursor on them. -/
def openingSteps : List Step :=
  [.buffer "octets" (.fresh (.growable [97, 98, 59])), .cursor "here" (.named "octets") 0 none]

/-- Runs a script that does not come back, shortens the octets and asks for too much. -/
def roughSteps : List Step :=
  [.pattern "wander" (.optional (.script "wander" [.seek 2, .giveUp]) .absent),
    .run "wander" "here" none, .truncate "octets" 1, .query "here" (.advance 5)]

theorem roughUses_stay_inside :
    Cursor.ofBuffer growingOctets 0 none = .ok ⟨growingOctets, 0, 0, 3⟩ ∧
    (Use.applyAll ⟨growingOctets, 0, 0, 3⟩ roughUses).position = 3 ∧
    (Use.applyAll ⟨growingOctets, 0, 0, 3⟩ roughUses).buffer.size = 1 ∧
    (Use.applyAll ⟨growingOctets, 0, 0, 3⟩ roughUses).Valid ∧
    (Session.empty.steps openingSteps).1.cursors.lookup "here" = some ⟨0, 0, 0, 3⟩ ∧
    (∀ step ∈ roughSteps, ¬ step.Places "here") ∧
    ((Session.empty.steps openingSteps).1.steps roughSteps).1.cursors.lookup "here" =
      some ⟨0, 0, 2, 3⟩ ∧
    ∃ position, 0 ≤ position ∧ position ≤ 3 ∧
      ((Session.empty.steps openingSteps).1.steps roughSteps).1.cursors.lookup "here" =
        some ⟨0, 0, position, 3⟩ := by
  have made : Cursor.ofBuffer growingOctets 0 none = .ok ⟨growingOctets, 0, 0, 3⟩ := rfl
  have found : (Session.empty.steps openingSteps).1.cursors.lookup "here" =
      some ⟨0, 0, 0, 3⟩ := rfl
  have free : ∀ step ∈ roughSteps, ¬ step.Places "here" := by
    simp [roughSteps, Step.Places]
  obtain ⟨ofUses, ofSteps⟩ := cursors_keep_their_windows _ _ _ _ made
  exact ⟨made, rfl, rfl, (ofUses roughUses _ rfl).1, found, free, rfl,
    (ofSteps openingSteps _ rfl _ _ found).1 roughSteps free⟩

end Sessions

end SpanLexer
