import SpanLexer.Proofs.Contract

/-!
The runs inside a run.

While a pattern runs, it runs its parts, each from where the ones before have left the cursor:
parts of a sequence as long as they match, alternatives as long as they do not, the body of a
repetition in round after round. `Starts` tells which parts, at any depth, are started at which
positions, also in branches that are given up later. All of these positions lie ahead.
-/
namespace SpanLexer.Subruns
open Scan Matcher Contract

/-- Rounds that lead from the one position to the other, with another to follow each of them. -/
inductive Rounds (label : String) (body : Matcher) (base : Cursor) : Nat → Nat → Prop where
  | none (start : Nat) : Rounds label body base start start
  | again (ran : (round label body).Returns (base.moveTo start) true middle)
      (later : Rounds label body base middle stop) : Rounds label body base start stop

/-- In its run from the first position, the pattern starts one of its own parts at the second. -/
inductive StartsPart (call : κ → Matcher) (base : Cursor) :
    Pattern κ → Nat → Pattern κ → Nat → Prop where
  | seq (before after : List (Pattern κ))
      (matched : (allMatch (before.map (Pattern.run call))).Returns (base.moveTo start) true here) :
      StartsPart call base (.seq (before ++ part :: after) observer) start part here
  | choice (before after : List (Pattern κ))
      (missed : (firstMatch start (before.map (Pattern.run call))).Returns (base.moveTo start)
        none here) :
      StartsPart call base (.choice (before ++ part :: after) observer) start part here
  | star (rounds : Rounds body.label (body.run call) base start here)
      (left : (base.moveTo here).remaining ≠ 0) :
      StartsPart call base (.star body observer) start body here
  | plus_first : StartsPart call base (.plus body observer) start body start
  | plus (first : (body.run call).Returns (base.moveTo start) (some span) middle)
      (rounds : Rounds body.label (body.run call) base middle here)
      (left : (base.moveTo here).remaining ≠ 0) :
      StartsPart call base (.plus body observer) start body here
  | times (matched : (allTimes (body.run call) earlier).Returns (base.moveTo start) true here)
      (more : earlier < count) :
      StartsPart call base (.times body count observer) start body here
  | optional : StartsPart call base (.optional body observer) start body start
  | observed : StartsPart call base (.observed body observer) start body start
  | labelled : StartsPart call base (.labelled name body) start body start

/-- In its run from the position, the pattern starts a part of it, at any depth. -/
inductive Starts (call : κ → Matcher) (base : Cursor) (pattern : Pattern κ) (start : Nat) :
    Pattern κ → Nat → Prop where
  | itself : Starts call base pattern start pattern start
  | within (outer : Starts call base pattern start whole middle)
      (inner : StartsPart call base whole middle part here) :
      Starts call base pattern start part here

variable {base : Cursor}

/-- What is demanded of a pattern is met by the parts it starts. -/
theorem startsPart_meets (starts : StartsPart call base pattern start part here)
    (met : pattern.Meets demand) : part.Meets demand := by
  cases starts with
  | seq before after =>
    cases met with
    | seq each _ => exact each part (by simp)
  | choice before after =>
    cases met with
    | choice each _ => exact each part (by simp)
  | star => cases met with | star inner _ => exact inner
  | plus_first => cases met with | plus inner _ => exact inner
  | plus => cases met with | plus inner _ => exact inner
  | times => cases met with | times inner _ => exact inner
  | optional => cases met with | optional inner _ => exact inner
  | observed => cases met with | observed inner _ => exact inner
  | labelled => cases met with | labelled inner => exact inner

theorem rounds_lead_ahead (keep : Keeps base body) (ahead : base.Ahead start)
    (rounds : Rounds label body base start stop) : base.Ahead stop := by
  induction rounds with
  | none => exact ahead
  | again ran _ ih => exact ih (ahead_trans ahead (round_ahead keep ahead ran))

private theorem keeps_before {call : κ → Matcher} {before : List (Pattern κ)}
    (each : ∀ part ∈ before ++ after, Pattern.Meets demand part)
    (leaves : ∀ target, demand.callable target → Keeps base (call target)) :
    ∀ matcher ∈ before.map (Pattern.run call), Keeps base matcher := by
  refine List.forall_mem_map.mpr fun earlier member => ?_
  exact keeps_run (each earlier (List.mem_append_left _ member)) leaves

/-- A part is started ahead of where the pattern was started. -/
theorem startsPart_ahead {call : κ → Matcher} {pattern : Pattern κ} (met : pattern.Meets demand)
    (leaves : ∀ target, demand.callable target → Keeps base (call target))
    (ahead : base.Ahead start) (starts : StartsPart call base pattern start part here) :
    base.Ahead here := by
  have own := startsPart_meets starts met
  cases starts with
  | seq before after matched =>
    cases met with
    | seq each _ =>
      exact ahead_trans ahead (allMatch_ahead (keeps_before each leaves) ahead matched)
  | choice before after missed =>
    cases met with
    | choice each _ =>
      cases firstMatch_fulfils (keeps_before each leaves) ahead missed
      exact ahead
  | star rounds => exact rounds_lead_ahead (keeps_run own leaves) ahead rounds
  | plus_first => exact ahead
  | plus first rounds =>
    have keep := keeps_run own leaves
    have matched := (keep start _ _ ahead first).2
    exact rounds_lead_ahead keep (ahead_trans ahead matched) rounds
  | times matched =>
    rw [allTimes_eq_allMatch] at matched
    refine ahead_trans ahead (allMatch_ahead ?_ ahead matched)
    intro copy member
    rw [List.eq_of_mem_replicate member]
    exact keeps_run own leaves
  | optional => exact ahead
  | observed => exact ahead
  | labelled => exact ahead

/-- Whatever a run starts, at any depth, it starts ahead of its own start, and it is as the pattern
was demanded to be. -/
theorem starts_ahead {call : κ → Matcher} {pattern : Pattern κ} (met : pattern.Meets demand)
    (leaves : ∀ target, demand.callable target → Keeps base (call target))
    (ahead : base.Ahead start) (starts : Starts call base pattern start part here) :
    base.Ahead here ∧ part.Meets demand := by
  induction starts with
  | itself => exact ⟨ahead, met⟩
  | within _ inner ih =>
    exact ⟨startsPart_ahead ih.2 leaves ih.1 inner, startsPart_meets inner ih.2⟩

end SpanLexer.Subruns
