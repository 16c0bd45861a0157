import SpanLexer.Proofs.Retelling
import SpanLexer.Proofs.Traces
import SpanLexer.Pattern.Unit

/-!
Runs that an observer cuts short.

Let some of the observers of a pattern stop the run after they have logged what they were told. The
run goes as if they did not, up to the first time that one of them is told something; there it ends,
and nothing around it moves the cursor back, goes on or tells anybody.

To say which nodes are chosen, the nodes have names. In the pattern itself a node that logs does so
under its name; `known` gives the id that it logs under in the other two patterns, where several
nodes may share one, and `raises` chooses nodes by name and gives each of them its message.
-/
namespace SpanLexer

/-- Wherever it starts, the scan tells no observer anything. -/
def Scan.Untold (scan : Scan α) : Prop :=
  ∀ cursor, ∀ event ∈ (scan.run cursor).trace, event.sink? = none

namespace Interruption
open Scan Contract Bounds Traces

theorem untold_of_silent {scan : Scan α} (silent : ∀ cursor, (scan.run cursor).trace = []) :
    scan.Untold := by
  intro cursor event member
  rw [silent cursor] at member
  cases member

theorem untold_move (step : Cursor → Except Fault Cursor) : (move step).Untold := by
  refine untold_of_silent fun cursor => ?_
  simp only [move]
  split <;> rfl

theorem untold_of_plain {scan : Scan α} (plain : scan.Plain) : scan.Untold := by
  cases plain with
  | seek target => exact untold_move _
  | advance amount => exact untold_move _
  | emit unheard =>
    intro cursor event member
    rw [List.mem_singleton.mp member]
    exact unheard
  | _ => exact untold_of_silent fun _ => rfl

/-- The observer of a named node: one that logs does so under the id it is known by, and a chosen
one then stops the run. One that stops the run anyway keeps doing so. -/
def voice (known : String → String) (raises : String → Option String) : Observer → Observer
  | .silent => .silent
  | .record name =>
    match raises name with
    | none => .record (known name)
    | some message => .interrupt (known name) message
  | .collect list => .collect list
  | .interrupt name message => .interrupt (known name) message

/-- No node is chosen. -/
def noneRaise : String → Option String :=
  fun _ => none

/-- The pattern with ids in place of names, its chosen observers stopping the run. -/
def raising (known : String → String) (raises : String → Option String) (pattern : Pattern κ) :
    Pattern κ :=
  pattern.retell (voice known raises)

/-- The event with an id in place of a name. -/
def logged (known : String → String) : Event → Event
  | .observed (.log name) span text position => .observed (.log (known name)) span text position
  | event => event

/-- The message of the chosen observer that was told something, if it was one. -/
def message? (raises : String → Option String) : Event → Option String
  | .observed (.log name) _ _ _ => raises name
  | _ => none

variable {known : String → String} {raises : String → Option String}

/-- How a run with chosen observers relates to the run with names: it is the whole run, if no chosen
observer is told anything, and otherwise the run up to the first time that one is. -/
inductive CutShort (known : String → String) (raises : String → Option String) (named : Run α) :
    Run α → Prop where
  | whole (unheard : ∀ event ∈ named.trace, message? raises event = none) :
      CutShort known raises named
        ⟨named.outcome, named.position, named.trace.map (logged known)⟩
  | cut {event : Event} (before after : List Event)
      (happened : named.trace = before ++ event :: after)
      (unheard : ∀ event ∈ before, message? raises event = none)
      (told : event = .observed (.log name) span text here) (chosen : raises name = some message) :
      CutShort known raises named
        ⟨.error (.raised message), here, (before ++ [event]).map (logged known)⟩

/-- A trace has one first event of a chosen observer. -/
private theorem first_chosen_unique {before before' after after' : List Event}
    (same : before ++ event :: after = before' ++ event' :: after')
    (unheard : ∀ earlier ∈ before, message? raises earlier = none)
    (unheard' : ∀ earlier ∈ before', message? raises earlier = none)
    (chosen : message? raises event ≠ none) (chosen' : message? raises event' ≠ none) :
    before = before' ∧ event = event' := by
  induction before generalizing before' with
  | nil =>
    cases before' with
    | nil =>
      cases same
      exact ⟨rfl, rfl⟩
    | cons head tail =>
      cases same
      exact (chosen (unheard' _ List.mem_cons_self)).elim
  | cons first others ih =>
    cases before' with
    | nil =>
      cases same
      exact (chosen' (unheard _ List.mem_cons_self)).elim
    | cons head tail =>
      rw [List.cons_append, List.cons_append, List.cons.injEq] at same
      obtain ⟨rfl, rest⟩ := same
      obtain ⟨rfl, rfl⟩ := ih rest
        (fun earlier member => unheard earlier (List.mem_cons_of_mem _ member))
        (fun earlier member => unheard' earlier (List.mem_cons_of_mem _ member))
      exact ⟨rfl, rfl⟩

/-- Where no chosen observer is told anything, nothing is cut off. -/
theorem CutShort.eq_of_unheard {named loud : Run α} (cut : CutShort known raises named loud)
    (unheard : ∀ event ∈ named.trace, message? raises event = none) :
    loud = ⟨named.outcome, named.position, named.trace.map (logged known)⟩ := by
  cases cut with
  | whole => rfl
  | cut before after happened _ told chosen =>
    have silent := unheard _ (happened ▸ List.mem_append_right before List.mem_cons_self)
    rw [told, message?, chosen] at silent
    cases silent

/-- The first event of a chosen observer is where the run is cut. -/
theorem CutShort.eq_of_first {named loud : Run α} {event : Event} {before after : List Event}
    (cut : CutShort known raises named loud) (happened : named.trace = before ++ event :: after)
    (unheard : ∀ earlier ∈ before, message? raises earlier = none)
    (chosen : message? raises event = some message) :
    ∃ name span text here, event = .observed (.log name) span text here ∧
      loud = ⟨.error (.raised message), here, (before ++ [event]).map (logged known)⟩ := by
  cases cut with
  | whole silent =>
    rw [silent event (happened ▸ List.mem_append_right before List.mem_cons_self)] at chosen
    cases chosen
  | @cut name span text here other _ _ _ happened' unheard' told chosen' =>
    have also : message? raises (.observed (.log name) span text here) = some other := chosen'
    rw [← told] at also
    obtain ⟨rfl, rfl⟩ := first_chosen_unique (happened.symm.trans happened') unheard unheard'
      (by simp [chosen]) (by simp [also])
    rw [chosen] at also
    cases also
    exact ⟨name, span, text, here, told, rfl⟩

private theorem cutShort_untold {scan : Scan α} (untold : scan.Untold) (cursor : Cursor) :
    CutShort known raises (scan.run cursor) (scan.run cursor) := by
  have plain : ∀ event ∈ (scan.run cursor).trace,
      message? raises event = none ∧ logged known event = event := by
    intro event member
    have unsunk := untold cursor event member
    cases event with
    | observed sink span text position => cases unsunk
    | _ => exact ⟨rfl, rfl⟩
  have same : (scan.run cursor).trace.map (logged known) = (scan.run cursor).trace := by
    rw [List.map_congr_left fun event member => (plain event member).2, List.map_id']
  have whole : CutShort known raises (scan.run cursor) _ :=
    .whole fun event member => (plain event member).1
  rwa [same] at whole

/-- A run that is cut short stays so whatever was to follow; one that is not may be cut short by
what follows, which happens after all there was before. -/
private theorem cutShort_bind {named loud : Scan α} {next next' : α → Scan β} {cursor : Cursor}
    (first : CutShort known raises (named.run cursor) (loud.run cursor))
    (later : ∀ value cursor,
      CutShort known raises ((next value).run cursor) ((next' value).run cursor)) :
    CutShort known raises ((named >>= next).run cursor) ((loud >>= next').run cursor) := by
  rcases ran : named.run cursor with ⟨outcome, stop, trace⟩
  generalize ended : loud.run cursor = cutOff at first
  rw [ran] at first
  cases first with
  | whole unheard =>
    cases outcome with
    | error fault =>
      rw [run_bind_of_error ran, run_bind_of_error ended]
      exact .whole unheard
    | ok value =>
      rw [run_bind_of_ok ran, run_bind_of_ok ended]
      have rest := later value (cursor.moveTo stop)
      generalize (next' value).run (cursor.moveTo stop) = finish at rest
      cases rest with
      | whole unheard' =>
        simp only [← List.map_append]
        refine .whole (?_ : ∀ event ∈ trace ++ _, _)
        intro event member
        exact (List.mem_append.mp member).elim (unheard event) (unheard' event)
      | cut before after happened unheard' told chosen =>
        simp only [← List.map_append, ← List.append_assoc]
        refine .cut (trace ++ before) after ?_ ?_ told chosen
        · exact (congrArg (trace ++ ·) happened).trans (List.append_assoc ..).symm
        · intro event member
          exact (List.mem_append.mp member).elim (unheard event) (unheard' event)
  | cut before after happened unheard told chosen =>
    rw [run_bind_of_error ended]
    cases outcome with
    | error fault =>
      rw [run_bind_of_error ran]
      exact .cut before after happened unheard told chosen
    | ok value =>
      rw [run_bind_of_ok ran]
      refine .cut before (after ++ ((next value).run (cursor.moveTo stop)).trace) ?_ unheard told
        chosen
      exact (congrArg (· ++ _) happened).trans (List.append_assoc ..)

/-- Scans of which the second is the first cut short, from every cursor. -/
def cutting (known : String → String) (raises : String → Option String) : Comparison where
  related named loud := ∀ cursor, CutShort known raises (named.run cursor) (loud.run cursor)
  plain own cursor := cutShort_untold (untold_of_plain own) cursor
  bind first later cursor := cutShort_bind (first cursor) later

/-- Giving an observer its voice makes no difference until it is chosen and told something. -/
theorem told_voice {observer : Observer}
    (unchosen : ∀ name message, observer = .interrupt name message → raises name = none) :
    (cutting known raises).Told observer (voice known raises observer) := by
  intro span cursor
  cases observer with
  | silent => exact .whole (List.forall_mem_nil _)
  | collect list => exact .whole (by simp [notify, record, message?])
  | interrupt name message =>
    have quiet := unchosen name message rfl
    exact .whole (by simp [notify, record, raise, run_bind, message?, quiet])
  | record name =>
    cases chosen : raises name with
    | none =>
      simp only [voice, chosen]
      exact .whole (by simp [notify, record, message?, chosen])
    | some message =>
      simp only [voice, chosen]
      exact .cut [] [] rfl (List.forall_mem_nil _) rfl chosen

/-- Observers that stop the run anyway are not chosen; callables keep the contract and tell no
observers. -/
def nodes (raises : String → Option String) (base : Cursor) (call : κ → Matcher) : Demand κ where
  predicate _ := True
  observer observer := ∀ name message, observer = .interrupt name message → raises name = none
  callable target := Keeps base (call target) ∧ (call target).Untold
  inert := True

theorem run_raising {call : κ → Matcher} {pattern : Pattern κ}
    (met : pattern.Meets (nodes raises base call)) (known : String → String) (cursor : Cursor) :
    CutShort known raises ((pattern.run call).run cursor)
      (((raising known raises pattern).run call).run cursor) := by
  have parts : pattern.Meets ((cutting known raises).parts call (voice known raises)) := by
    refine met.mono ?_ ?_ ?_ ?_
    · exact fun predicate _ unit => cutShort_untold (untold_of_silent fun _ => rfl)
    · exact fun observer unchosen => told_voice unchosen
    · exact fun target own cursor => cutShort_untold own.2 cursor
    · exact fun _ typeName => cutShort_untold (untold_of_silent fun _ => rfl)
  exact Comparison.related_retell parts cursor

/-- With nobody chosen, all that changes is what the events are logged under. -/
theorem run_noneRaise {call : κ → Matcher} {pattern : Pattern κ}
    (met : pattern.Meets (nodes raises base call)) (known : String → String) (cursor : Cursor) :
    ((raising known noneRaise pattern).run call).run cursor =
      ⟨((pattern.run call).run cursor).outcome, ((pattern.run call).run cursor).position,
        ((pattern.run call).run cursor).trace.map (logged known)⟩ := by
  have unchosen : pattern.Meets (nodes noneRaise base call) :=
    met.mono (fun _ _ => trivial) (fun _ _ _ _ _ => rfl) (fun _ own => own) id
  refine (run_raising unchosen known cursor).eq_of_unheard ?_
  intro event _
  cases event with
  | observed sink _ _ _ => cases sink <;> rfl
  | _ => rfl

/-- If an observer was told a span, it ends where the cursor was. -/
def EndsHere : Event → Prop
  | .observed _ span _ here => span.stop = (here : Nat)
  | _ => True

theorem run_endsHere {call : κ → Matcher} {pattern : Pattern κ} {cursor : Cursor}
    (valid : cursor.Valid) (met : pattern.Meets (nodes raises cursor call)) :
    (pattern.run call).EventsWithin EndsHere cursor := by
  have own : OwnEvents EndsHere cursor :=
    ⟨⟨fun _ _ _ => trivial, fun _ _ _ => rfl⟩, fun _ => trivial⟩
  have leaving : pattern.Meets (partsLeaving EndsHere cursor call) := by
    apply met.callables
    rintro target ⟨keep, untold⟩
    refine ⟨keep, fun start _ event member => ?_⟩
    cases event with
    | observed sink span text here => cases untold _ _ member
    | _ => trivial
  exact run_leavesWithin valid own leaving cursor.position (Cursor.ahead_self valid)

/-- Choose observers of a pattern, by the names of their nodes, to stop the run with a message after
they have logged what they were told. With nobody chosen the run is the one with names, only logged
under the ids the nodes are known by. If in that run no chosen observer is told anything, choosing
changes nothing. Otherwise the run stops with the message of the chosen observer that is told
something first, at the end of the span it was told; all events and warnings before that, and that
one, happen as they do with nobody chosen, and nothing happens afterwards. -/
theorem raising_run_is_cut_short (call : κ → Matcher) (pattern : Pattern κ)
    (known : String → String) (raises : String → Option String) (cursor : Cursor)
    (valid : cursor.Valid) (met : pattern.Meets (nodes raises cursor call)) :
    (((raising known noneRaise pattern).run call).run cursor =
      ⟨((pattern.run call).run cursor).outcome, ((pattern.run call).run cursor).position,
        ((pattern.run call).run cursor).trace.map (logged known)⟩) ∧
    ((∀ event ∈ ((pattern.run call).run cursor).trace, message? raises event = none) →
      ((raising known raises pattern).run call).run cursor =
        ((raising known noneRaise pattern).run call).run cursor) ∧
    ∀ before event after message,
      ((pattern.run call).run cursor).trace = before ++ event :: after →
      (∀ earlier ∈ before, message? raises earlier = none) →
      message? raises event = some message →
      ∃ name span text here, event = .observed (.log name) span text here ∧ span.stop = here ∧
        ((raising known raises pattern).run call).run cursor =
          ⟨.error (.raised message), here, (before ++ [event]).map (logged known)⟩ := by
  have quiet := run_noneRaise met known cursor
  have loud := run_raising met known cursor
  refine ⟨quiet, ?_, ?_⟩
  · intro unheard
    rw [quiet]
    exact loud.eq_of_unheard unheard
  · intro before event after message happened unheard chosen
    obtain ⟨name, span, text, here, told, cut⟩ := loud.eq_of_first happened unheard chosen
    have atEnd := run_endsHere valid met event
      (happened ▸ List.mem_append_right before List.mem_cons_self)
    rw [told] at atEnd
    exact ⟨name, span, text, here, told, atEnd, cut⟩

/-- Letters and a semicolon after them, or else units one by one, each of them told to two
observers. -/
def lettersOrUnits : Pattern Empty :=
  .choice [.seq [.star (.optional (.character 'a' .silent) .silent) (.record "letters"),
      .literal [';'] .silent] .silent,
    .plus (.observed (.noneOf [';'] (.record "unit")) (.record "again")) .silent] .silent

/-- A letter that no semicolon follows. -/
def letterText : Cursor :=
  ⟨.octets .fixed [97, 98, 59], 0, 0, 3⟩

/-- The second observer of a unit. -/
def secondObserver : String → Option String
  | "again" => some "stop"
  | _ => none

private theorem lettersOrUnits_nodes (raises : String → Option String) (base : Cursor) :
    lettersOrUnits.Meets (nodes raises base Empty.elim) := by
  refine .choice ?_ nofun
  intro part member
  simp only [List.mem_cons, List.not_mem_nil, or_false] at member
  rcases member with rfl | rfl
  · refine .seq ?_ nofun
    intro part member
    simp only [List.mem_cons, List.not_mem_nil, or_false] at member
    rcases member with rfl | rfl
    · exact .star (.optional (.unit trivial nofun) nofun) nofun
    · exact .literal nofun
  · exact .plus (.observed (.unit trivial nofun) nofun) nofun

/-- All observers log the same span under the same id, yet the run is cut where the chosen one is
told it: after the warning and the log of the branch that was given up. -/
theorem lettersOrUnits_cut_short :
    letterText.Valid ∧ lettersOrUnits.Meets (nodes secondObserver letterText Empty.elim) ∧
    (((raising (fun _ => "x") noneRaise lettersOrUnits).run Empty.elim).run
      letterText).trace.length = 11 ∧
    ((raising (fun _ => "x") secondObserver lettersOrUnits).run Empty.elim).run letterText =
      ⟨.error (.raised "stop"), 1,
        [.tested 0 'a' false, .tested 1 'b' false, .emptyRound "maybe(char_token('a'))",
          .observed (.log "x") ⟨0, 1⟩ ['a'] 1, .tested 0 'a' false,
          .observed (.log "x") ⟨0, 1⟩ ['a'] 1, .observed (.log "x") ⟨0, 1⟩ ['a'] 1]⟩ := by
  have valid : letterText.Valid := by decide
  have met := lettersOrUnits_nodes secondObserver letterText
  obtain ⟨_, _, cut⟩ :=
    raising_run_is_cut_short Empty.elim lettersOrUnits (fun _ => "x") _ _ valid met
  obtain ⟨name, span, text, here, told, atEnd, stopped⟩ := cut
    [.tested 0 'a' false, .tested 1 'b' false, .emptyRound "maybe(char_token('a'))",
      .observed (.log "letters") ⟨0, 1⟩ ['a'] 1, .tested 0 'a' false,
      .observed (.log "unit") ⟨0, 1⟩ ['a'] 1] (.observed (.log "again") ⟨0, 1⟩ ['a'] 1)
    [.tested 1 'b' false, .observed (.log "unit") ⟨1, 2⟩ ['b'] 2,
      .observed (.log "again") ⟨1, 2⟩ ['b'] 2, .tested 2 ';' false] "stop"
    (by rfl) (by decide) rfl
  cases told
  exact ⟨valid, met, rfl, stopped⟩

end Interruption

end SpanLexer
