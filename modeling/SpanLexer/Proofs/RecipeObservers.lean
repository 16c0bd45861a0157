import SpanLexer.Proofs.Interruption
import SpanLexer.Proofs.Telling

/-!
What the observer of a recipe is told when the recipe misses.

The observer sits on the part that carries the value, and it is told as soon as that part has
matched. When this is the end of the recipe, a recipe that misses has told nobody. A quoted string
and a report still have something to match after the value, so they can miss after the observer has
been told; what it was told is not taken back.
-/
namespace SpanLexer

/-- What observers are told in a run. -/
def Scan.told (scan : Scan α) (cursor : Cursor) : Trace :=
  (scan.run cursor).trace.filter fun event => event.sink?.isSome

namespace Recipe

variable {κ : Type}

/-- The part of a recipe that carries the value. -/
def value (observer : Observer) : Recipe → Pattern κ
  | .quotedString => .plus (.noneOf ['\x22'] .silent) observer
  | .dottedAddress => address observer
  | .addressReport => address observer
  | .signedInteger => integer observer
  | .hexNumber => .plus (.ofClass .hexDigit .silent) observer

/-- What stands before the value and what has to follow it, in recipes that go on after it. -/
def frame : Recipe → Option (Pattern κ × Pattern κ)
  | .quotedString => some (.character '\x22' .silent, .character '\x22' .silent)
  | .addressReport => some (both guard (.literal "+CGPADDR: ".toList .silent), guard)
  | _ => none

end Recipe

namespace RecipeObservers
open Scan Matcher Interruption

theorem told_of_untold {scan : Scan α} (untold : scan.Untold) : scan.told cursor = [] := by
  apply List.filter_eq_nil_iff.mpr
  intro event member
  simp [untold cursor event member]

/-- What is told in a composed scan is told in its parts, one after the other. -/
theorem told_bind {scan : Scan α} {next : α → Scan β} (ran : scan.Returns cursor value middle) :
    (scan >>= next).told cursor = scan.told cursor ++ (next value).told (cursor.moveTo middle) := by
  obtain ⟨returned, rfl⟩ := ran
  simp only [told, run_bind, returned, List.filter_append]

theorem told_conclude (start : Nat) (observer : Observer) (cursor : Cursor) :
    (conclude start observer).told cursor = observer.notes cursor ⟨start, cursor.position⟩ := by
  cases observer <;> rfl

theorem untold_bind {scan : Scan α} {next : α → Scan β} (first : scan.Untold)
    (later : ∀ value, (next value).Untold) : (scan >>= next).Untold := by
  intro cursor
  exact eventsWithin_bind (first cursor) fun value stop _ => later value (cursor.moveTo stop)

/-- Scans of which the first tells nobody anything. -/
def untold : Comparison where
  related one _ := one.Untold
  plain := untold_of_plain
  bind := untold_bind

/-- A pattern in which nobody listens tells nobody anything. -/
theorem untold_run {call : κ → Matcher} {pattern : Pattern κ}
    (met : pattern.Meets (untold.parts call id)) : (pattern.run call).Untold :=
  Comparison.related_retell met

theorem told_allMatch_missed {others : List Matcher} (missed : matcher.Returns cursor none stop) :
    (allMatch (matcher :: others)).told cursor = matcher.told cursor := by
  rw [allMatch, told_bind missed]
  exact List.append_nil _

theorem told_allMatch_matched {others : List Matcher}
    (matched : matcher.Returns cursor (some span) middle) :
    (allMatch (matcher :: others)).told cursor =
      matcher.told cursor ++ (allMatch others).told (cursor.moveTo middle) := by
  rw [allMatch, told_bind matched]

/-- A sequence tells what its parts tell, and then its own observer, if all of them have matched. -/
theorem told_seq (row : (allMatch parts).Returns cursor all middle) :
    (seq parts observer).told cursor = (allMatch parts).told cursor ++
      if all then observer.notes (cursor.moveTo middle) ⟨cursor.position, middle⟩ else [] := by
  change (allMatch parts >>= _).told cursor = _
  rw [told_bind row]
  cases all with
  | true => exact congrArg _ (told_conclude _ _ _)
  | false =>
    have back : ((do seek cursor.position; return none) : Matcher).Untold :=
      untold_bind (untold_move _) fun _ => untold_of_silent fun _ => rfl
    exact congrArg _ (told_of_untold back)

/-- The matcher tells nobody anything but its observer, and that only once it has matched: the whole
span, and nothing afterwards. -/
structure Announces (observer : Observer) (matcher : Matcher) : Prop where
  missed {cursor : Cursor} {stop : Nat} : matcher.Returns cursor none stop →
    matcher.told cursor = []
  matched {cursor : Cursor} {span : Span} {stop : Nat} : matcher.Returns cursor (some span) stop →
    span = ⟨cursor.position, stop⟩ ∧ matcher.told cursor = observer.notes (cursor.moveTo stop) span

theorem announces_seq {parts : List Matcher} (silent : ∀ part ∈ parts, part.Untold)
    (observer : Observer) : Announces observer (seq parts observer) := by
  have row : (allMatch parts).Untold :=
    untold.related_allMatch (List.forall₂_same.mpr silent)
  constructor
  · intro cursor stop missed
    obtain ⟨all, middle, ran, ended⟩ := returns_seq.mp missed
    rcases ended with ⟨rfl, _⟩ | ⟨_, _, matched, _⟩
    · rw [told_seq ran, told_of_untold row]
      rfl
    · cases matched
  · intro cursor span stop matched
    obtain ⟨all, middle, ran, ended⟩ := returns_seq.mp matched
    rcases ended with ⟨_, _, missed, _⟩ | ⟨rfl, _, given, rfl⟩
    · cases missed
    · cases given
      rw [told_seq ran, told_of_untold row]
      exact ⟨rfl, rfl⟩

theorem announces_pair (first : one.Untold) (later : other.Untold) (observer : Observer) :
    Announces observer (seq [one, other] observer) := by
  apply announces_seq
  simp [first, later]

theorem announces_plus (silent : body.Untold) (label : String) (observer : Observer) :
    Announces observer (plus label body observer) := by
  have bodies : untold.related body body := silent
  have repeated : (exhaust label body).Untold := untold.related_exhaust bodies label
  constructor
  · intro cursor stop missed
    rcases returns_plus.mp missed with ⟨first, _⟩ | ⟨_, _, _, _, _, matched⟩
    · change (body >>= _).told cursor = _
      rw [told_bind first, told_of_untold silent]
      rfl
    · cases matched
  · intro cursor span stop matched
    rcases returns_plus.mp matched with ⟨_, missed⟩ | ⟨_, middle, first, later, _, given⟩
    · cases missed
    · cases given
      change _ ∧ (body >>= _).told cursor = _
      rw [told_bind first, told_of_untold silent, told_bind later, told_of_untold repeated]
      exact ⟨rfl, told_conclude _ _ _⟩

/-- When two matchers in turn miss, either the first of them does, or it matches and tells what it
tells, and then the second one misses. -/
theorem pair_missed (missed : (seq [one, other] .silent).Returns cursor none stop) :
    (∃ middle, one.Returns cursor none middle ∧
      (seq [one, other] .silent).told cursor = one.told cursor) ∨
    ∃ span middle finish, one.Returns cursor (some span) middle ∧
      other.Returns (cursor.moveTo middle) none finish ∧
      (seq [one, other] .silent).told cursor =
        one.told cursor ++ other.told (cursor.moveTo middle) := by
  obtain ⟨all, reached, ran, ended⟩ := returns_seq.mp missed
  rcases ended with ⟨rfl, _⟩ | ⟨_, _, matched, _⟩
  · rw [told_seq ran]
    rcases returns_allMatch_cons.mp ran with ⟨first, _⟩ | ⟨span, middle, first, later⟩
    · rw [told_allMatch_missed first]
      exact .inl ⟨_, first, List.append_nil _⟩
    · rcases returns_allMatch_cons.mp later with ⟨second, _⟩ | ⟨_, _, _, rest⟩
      · rw [told_allMatch_matched first, told_allMatch_missed second]
        exact .inr ⟨span, middle, _, first, second, List.append_nil _⟩
      · cases (returns_allMatch_nil.mp rest).1
  · cases matched

/-- When two matchers in turn match, each of them has told what it tells. -/
theorem pair_matched (matched : (seq [one, other] .silent).Returns cursor (some span) stop) :
    ∃ first middle second, one.Returns cursor (some first) middle ∧
      other.Returns (cursor.moveTo middle) (some second) stop ∧
      (seq [one, other] .silent).told cursor =
        one.told cursor ++ other.told (cursor.moveTo middle) := by
  obtain ⟨all, reached, ran, ended⟩ := returns_seq.mp matched
  rcases ended with ⟨_, _, missed, _⟩ | ⟨rfl, _, _, rfl⟩
  · cases missed
  · rcases returns_allMatch_cons.mp ran with ⟨_, impossible⟩ | ⟨first, middle, matched, later⟩
    · cases impossible
    · rcases returns_allMatch_cons.mp later with ⟨_, impossible⟩ | ⟨second, _, after, rest⟩
      · cases impossible
      · obtain ⟨_, rfl⟩ := returns_allMatch_nil.mp rest
        refine ⟨first, middle, second, matched, after, ?_⟩
        have nobody : (allMatch []).told ((cursor.moveTo middle).moveTo stop) = [] := rfl
        rw [told_seq ran, told_allMatch_matched matched, told_allMatch_matched after, nobody]
        simp [Observer.notes, Observer.sink?]

section

variable {before value after : Matcher}

/-- A value that does not come after what stands before it is not announced. -/
theorem led_missed (silent : before.Untold) (announces : Announces observer value)
    (missed : (seq [before, value] .silent).Returns cursor none stop) :
    (seq [before, value] .silent).told cursor = [] := by
  rcases pair_missed missed with ⟨_, _, told⟩ | ⟨_, _, _, _, second, told⟩
  · rw [told, told_of_untold silent]
  · rw [told, told_of_untold silent, announces.missed second]
    rfl

/-- A framed value that misses has told nobody, or has matched all but the end of the frame and has
announced the value. -/
theorem framed_missed (silent : before.Untold) (announces : Announces observer value)
    (quiet : after.Untold)
    (missed : (seq [seq [before, value] .silent, after] .silent).Returns cursor none stop) :
    ((∃ middle, (seq [before, value] .silent).Returns cursor none middle) ∧
      (seq [seq [before, value] .silent, after] .silent).told cursor = []) ∨
    ∃ (lead : Span) (start middle finish : Nat), before.Returns cursor (some lead) start ∧
      value.Returns (cursor.moveTo start) (some ⟨start, middle⟩) middle ∧
      after.Returns (cursor.moveTo middle) none finish ∧
      (seq [seq [before, value] .silent, after] .silent).told cursor =
        observer.notes (cursor.moveTo middle) ⟨start, middle⟩ := by
  rcases pair_missed missed with ⟨middle, first, told⟩ | ⟨_, middle, finish, first, last, told⟩
  · rw [told, led_missed silent announces first]
    exact .inl ⟨⟨middle, first⟩, rfl⟩
  · -- The value was announced before the end of the frame was tried, and nothing takes that back.
    obtain ⟨lead, start, span, led, carried, inner⟩ := pair_matched first
    obtain ⟨rfl, announced⟩ := announces.matched carried
    refine .inr ⟨lead, start, middle, finish, led, carried, last, ?_⟩
    rw [told, inner, announced, told_of_untold silent, told_of_untold quiet, List.append_nil]
    rfl

end

section

variable {call : κ → Matcher}

private theorem asked_untold (predicate : Predicate) :
    (untold.parts call id).predicate predicate :=
  fun _ => untold_of_silent fun _ => rfl

private theorem silent_untold : (untold.parts call id).observer .silent :=
  fun _ => untold_of_silent fun _ => rfl

private theorem unit_meets (name : String) (predicate : Predicate) :
    (Pattern.unit name predicate .silent).Meets (untold.parts call id) :=
  .unit (asked_untold predicate) silent_untold

/-- The value of a recipe is announced when it has matched. -/
theorem value_announces (call : κ → Matcher) (observer : Observer) (recipe : Recipe) :
    Announces observer ((recipe.value observer).run call) := by
  have digits : (Recipe.digits : Pattern κ).Meets (untold.parts call id) :=
    Recipe.digits_meets (fun _ => asked_untold _) silent_untold
  have address : Announces observer ((Recipe.address observer).run call) := by
    apply announces_pair (untold_run digits)
    exact untold_run (.times (.pair (unit_meets _ _) digits silent_untold) silent_untold)
  cases recipe with
  | quotedString => exact announces_plus (untold_run (unit_meets _ _)) _ _
  | dottedAddress => exact address
  | addressReport => exact address
  | signedInteger =>
    apply announces_pair _ (untold_run digits)
    exact untold_run (.optional (unit_meets _ _) silent_untold)
  | hexNumber => exact announces_plus (untold_run (unit_meets _ _)) _ _

/-- Nobody listens around the value of a recipe. -/
theorem frame_untold (call : κ → Matcher) {recipe : Recipe}
    (framed : recipe.frame = some (before, after)) :
    (before.run call).Untold ∧ (after.run call).Untold := by
  have guard : (Recipe.guard : Pattern κ).Meets (untold.parts call id) :=
    Recipe.guard_meets (fun _ => asked_untold _) silent_untold
  cases recipe with
  | quotedString =>
    cases framed
    exact ⟨untold_run (unit_meets _ _), untold_run (unit_meets _ _)⟩
  | addressReport =>
    cases framed
    exact ⟨untold_run (.pair guard (.literal silent_untold) silent_untold), untold_run guard⟩
  | dottedAddress => cases framed
  | signedInteger => cases framed
  | hexNumber => cases framed

/-- A recipe with a frame is its value with what stands before it and what has to follow. -/
theorem pattern_of_frame {recipe : Recipe} (framed : recipe.frame = some (before, after)) :
    (recipe.pattern observer : Pattern κ) =
      Recipe.both (Recipe.both before (recipe.value observer)) after := by
  cases recipe with
  | quotedString => cases framed; rfl
  | addressReport => cases framed; rfl
  | dottedAddress => cases framed
  | signedInteger => cases framed
  | hexNumber => cases framed

end

/-- Let a recipe miss. A dotted address, a signed integer and a hexadecimal number have told the
observer nothing. A quoted string and a report are a value with something before it and something
that has to follow. They have told the observer nothing either, if what stands before the value or
the value itself has missed; otherwise only what has to follow has missed, and the observer was told
the span of the value, once, where the value ends. -/
theorem missing_recipe_tells (call : κ → Matcher) (recipe : Recipe) (observer : Observer)
    (cursor : Cursor) (stop : Nat)
    (missed : ((recipe.pattern observer).run call).Returns cursor none stop) :
    ((recipe = .dottedAddress ∨ recipe = .signedInteger ∨ recipe = .hexNumber) →
      ((recipe.pattern observer).run call).told cursor = []) ∧
    ((recipe = .quotedString ∨ recipe = .addressReport) →
      ∃ before after, recipe.frame = some (before, after) ∧
        recipe.pattern observer =
          Recipe.both (Recipe.both before (recipe.value observer)) after ∧
        (((∃ middle, ((Recipe.both before (recipe.value observer)).run call).Returns cursor none
            middle) ∧
          ((recipe.pattern observer).run call).told cursor = []) ∨
        ∃ (lead : Span) (start middle finish : Nat),
          (before.run call).Returns cursor (some lead) start ∧
          ((recipe.value observer).run call).Returns (cursor.moveTo start)
            (some ⟨start, middle⟩) middle ∧
          (after.run call).Returns (cursor.moveTo middle) none finish ∧
          ((recipe.pattern observer).run call).told cursor =
            observer.notes (cursor.moveTo middle) ⟨start, middle⟩)) := by
  have announces := value_announces call observer recipe
  constructor
  · rintro (rfl | rfl | rfl)
    · exact announces.missed missed
    · exact announces.missed missed
    · apply led_missed _ announces missed
      exact untold_run (.literal silent_untold)
  · intro framed
    have ⟨before, after, framed⟩ : ∃ before after : Pattern κ,
        recipe.frame = some (before, after) := by
      rcases framed with rfl | rfl
      · exact ⟨_, _, rfl⟩
      · exact ⟨_, _, rfl⟩
    obtain ⟨silent, quiet⟩ := frame_untold call framed
    have whole : recipe.pattern observer = _ := pattern_of_frame framed
    rw [whole] at missed
    refine ⟨before, after, framed, whole, ?_⟩
    rw [whole]
    exact framed_missed silent announces quiet missed

/-- A string whose closing quote is missing. -/
def openString : Cursor :=
  ⟨.text ['\x22', 'a', 'b'], 0, 0, 3⟩

/-- A sign that no digit follows. -/
def loneSign : Cursor :=
  ⟨.octets .fixed [45, 59], 0, 0, 2⟩

/-- The body of the open string is told although the string is not one; of the lone sign nothing
is. -/
theorem openString_tells :
    ((Recipe.signedInteger.pattern (.record "n") : Pattern Empty).run Empty.elim).told loneSign =
      [] ∧
    ((Recipe.quotedString.pattern (.record "s") : Pattern Empty).run Empty.elim).told openString =
      [.observed (.log "s") ⟨1, 3⟩ ['a', 'b'] 3] ∧
    ∃ (start middle finish : Nat),
      ((Pattern.character '\x22' .silent : Pattern Empty).run Empty.elim).Returns
        (openString.moveTo middle) none finish ∧
      ((Recipe.quotedString.pattern (.record "s") : Pattern Empty).run Empty.elim).told openString =
        Observer.notes (.record "s") (openString.moveTo middle) ⟨start, middle⟩ := by
  have sign : ((Recipe.signedInteger.pattern (.record "n") : Pattern Empty).run
      Empty.elim).Returns loneSign none 0 := ⟨rfl, rfl⟩
  have string : ((Recipe.quotedString.pattern (.record "s") : Pattern Empty).run
      Empty.elim).Returns openString none 0 := ⟨rfl, rfl⟩
  have silence := (missing_recipe_tells _ _ _ _ _ sign).1 (.inr (.inl rfl))
  obtain ⟨before, after, framed, _, described⟩ :=
    (missing_recipe_tells _ _ _ _ _ string).2 (.inl rfl)
  cases framed
  rcases described with ⟨_, nobody⟩ | ⟨_, start, middle, finish, _, _, last, told⟩
  · cases nobody
  · exact ⟨silence, rfl, start, middle, finish, last, told⟩

/-- A recipe that misses may have told its observer something. -/
theorem missing_recipe_not_untold :
    ¬ ∀ (recipe : Recipe) (observer : Observer) (cursor : Cursor) (stop : Nat), observer.Quiet →
      ((recipe.pattern observer : Pattern Empty).run Empty.elim).Returns cursor none stop →
        ((recipe.pattern observer : Pattern Empty).run Empty.elim).told cursor = [] := by
  intro never
  have missed : ((Recipe.quotedString.pattern (.record "s") : Pattern Empty).run
      Empty.elim).Returns openString none 0 := ⟨rfl, rfl⟩
  have nobody := never .quotedString (.record "s") openString 0 trivial missed
  cases nobody

end RecipeObservers

end SpanLexer
