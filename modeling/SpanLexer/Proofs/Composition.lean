import SpanLexer.Proofs.Building
import SpanLexer.Proofs.Retelling
import SpanLexer.Proofs.Runs
import SpanLexer.Grammar

/-!
Compositions that go wrong do so when they are built.

Three faults tell of a composition that is none: that it is refused, that an operator stands between
values without one, and that something in it cannot be called. A pattern that has been built never
stops with any of them unless one of its callables does so by itself, and a script does so only if
it comes to build something that is refused or to run something that is no pattern. The exception is
a label put on a datum, which is not refused: the datum is taken for a pattern, and running that
stops.
-/
namespace SpanLexer.Composition
open Scan Matcher SpanLexer.Expr

variable {base : Cursor} {library : Library}

/-- The fault tells that something is no composition: it was refused, it cannot be called, or it has
no operators. -/
def Misuse : Fault → Prop
  | .malformed _ | .notCallable _ | .operandsUnsupported _ _ _ => True
  | _ => False

/-- From no position of the window does the scan stop with a misuse. -/
def Innocent (base : Cursor) (scan : Scan α) : Prop :=
  ∀ position, scan.FaultsWithin (fun fault => ¬ Misuse fault) (base.moveTo position)

theorem innocent_pure (value : α) : Innocent base (pure value : Scan α) :=
  fun _ => faultsWithin_pure value

theorem innocent_bind {scan : Scan α} {next : α → Scan β} (first : Innocent base scan)
    (later : ∀ value, Innocent base (next value)) : Innocent base (scan >>= next) := by
  intro position
  refine faultsWithin_bind (first position) ?_
  intro value stop _
  exact later value stop

private theorem innocent_move {step : Cursor → Except Fault Cursor}
    (own : ∀ cursor fault, step cursor = .error fault → ¬ Misuse fault) :
    Innocent base (move step) := by
  intro position fault stopped
  simp only [move] at stopped
  split at stopped <;> cases stopped
  exact own _ _ ‹_›

/-- Cursors refuse what is outside their window, and that is no misuse. -/
theorem innocent_of_plain {scan : Scan α} (plain : scan.Plain) : Innocent base scan := by
  cases plain with
  | ask question => exact fun _ _ stopped => nomatch stopped
  | emit => exact fun _ _ stopped => nomatch stopped
  | endless => exact fun _ => faultsWithin_raise not_false
  | unitAt index =>
    intro position fault stopped
    simp only [unitAt, Cursor.unitAt] at stopped
    repeat' split at stopped
    all_goals cases stopped
    all_goals exact not_false
  | seek target =>
    refine innocent_move fun cursor fault refused => ?_
    unfold Cursor.seek at refused
    split at refused <;> cases refused
    exact not_false
  | advance amount =>
    refine innocent_move fun cursor fault refused => ?_
    unfold Cursor.advance at refused
    split at refused <;> cases refused
    exact not_false
  | measure span =>
    intro position fault stopped
    simp only [lift, Span.length?] at stopped
    repeat' split at stopped
    all_goals cases stopped
    all_goals exact not_false

/-- Innocence as a comparison that looks at one of its sides only. -/
def innocence (base : Cursor) : Comparison where
  related one _ := Innocent base one
  plain := innocent_of_plain
  bind := innocent_bind

/-- The pattern holds nothing that cannot be run, and its predicates and callables do not misuse
anything by themselves. -/
def runnable (base : Cursor) (call : κ → Matcher) : Demand κ where
  predicate := Predicate.FaultsWithin fun fault => ¬ Misuse fault
  observer _ := True
  callable target := Innocent base (call target)
  inert := False

theorem innocent_notify (observer : Observer) (span : Span) :
    Innocent base (notify observer span) := by
  intro position
  apply faultsWithin_notify
  rintro _ message rfl
  exact not_false

/-- A run stops with a misuse only if a callable does. -/
theorem innocent_run {call : κ → Matcher} {pattern : Pattern κ}
    (met : pattern.Meets (runnable base call)) : Innocent base (pattern.run call) := by
  have unchanged : pattern.Meets ((innocence base).parts call id) := by
    refine met.mono ?_ ?_ ?_ ?_
    · intro predicate own unit position
      exact faultsWithin_lift (own unit)
    · intro observer _ span
      exact innocent_notify observer span
    · exact fun target own => own
    · exact False.elim
  exact Comparison.related_retell unchanged

/-- Neither building the expression nor running it meets what is no composition: all of it is proper,
it puts no label on a datum, and the expressions its scripts call are patterns and sound again. -/
inductive Sound (library : Library) : Expr → Prop where
  | intro {expression : Expr} (proper : ∀ inner, Within inner expression → Proper library inner)
      (bare : ∀ value label, ¬ Within (.labelled (.datum value) label) expression)
      (usable : ∀ label actions called, Within (.script label actions) expression →
        .call called ∈ actions → called.isDatum = false)
      (later : ∀ label actions called, Within (.script label actions) expression →
        .call called ∈ actions → Sound library called) : Sound library expression

/-- A script that calls only patterns and sound ones; late callables run what is in the library. -/
def SoundCallable (library : Library) : Callable → Prop
  | .late _ => True
  | .script actions => ∀ called, .call called ∈ actions →
    called.isDatum = false ∧ Sound library called

/-- The pattern holds nothing that cannot be run, and its scripts are sound. -/
def soundParts (library : Library) : Demand Callable where
  predicate := Predicate.FaultsWithin fun fault => ¬ Misuse fault
  observer _ := True
  callable := SoundCallable library
  inert := False

/-- The patterns of a library are sound. -/
def SoundLibrary (library : Library) : Prop :=
  ∀ entry ∈ library, entry.2.Meets (soundParts library)

/-- Sound parts are runnable where the sound callables are innocent. -/
theorem runnable_of_sound {pattern : Pattern Callable} {call : Callable → Matcher}
    (met : pattern.Meets (soundParts library))
    (calls : ∀ target, SoundCallable library target → Innocent base (call target)) :
    pattern.Meets (runnable base call) :=
  met.mono (fun _ own => own) (fun _ own => own) calls False.elim

theorem question_innocent (asked : Question) (shown : Bool) :
    Predicate.FaultsWithin (fun fault => ¬ Misuse fault) ⟨asked.test, shown⟩ := by
  intro unit fault refused
  cases asked <;> cases refused
  exact not_false

theorem test_innocent (test : Char → Bool) :
    Predicate.FaultsWithin (fun fault => ¬ Misuse fault) (.ofBool test) := by
  intro unit fault refused
  cases refused

theorem meets_of_lookup (sound : SoundLibrary library) (name : String) (pattern : Pattern Callable)
    (found : library.lookup name = some pattern) : pattern.Meets (soundParts library) := by
  obtain ⟨before, after, split, _⟩ := List.lookup_eq_some_iff.mp found
  exact sound (name, pattern) (by rw [split]; simp)

/-- A sound expression is built to a pattern with sound parts. -/
theorem sound_built {expression : Expr} (entries : SoundLibrary library)
    (sound : Sound library expression) (usable : expression.isDatum = false) :
    ∃ part pattern, (expression.build library).Yields part ∧ part.asPattern = .ok pattern ∧
      pattern.Meets (soundParts library) := by
  obtain ⟨proper, bare, scripts, later⟩ := sound
  have succeeds := succeeds_buildPattern.mpr ⟨usable, (succeeds_iff_proper expression).mpr proper⟩
  obtain ⟨pattern, built⟩ := succeeds
  obtain ⟨part, yields, made⟩ := yields_buildPattern.mp built
  refine ⟨part, pattern, yields, made, ?_⟩
  refine meets_of_built test_innocent question_innocent (fun _ => trivial) (meets_of_lookup entries)
    (fun _ _ => trivial) ?_ (fun value label within => bare value label within) built
  exact fun label actions within called member =>
    ⟨scripts label actions called within member, later label actions called within member⟩

/-- Performing actions is innocent when what they call is. -/
theorem innocent_perform {evaluate : Expr → Matcher} {actions : List Action}
    (each : ∀ called, .call called ∈ actions → Innocent base (evaluate called)) (start : Nat) :
    Innocent base (Action.perform evaluate start actions) := by
  induction actions with
  | nil => exact innocent_pure none
  | cons action others ih =>
    have next := ih fun called member => each called (List.mem_cons_of_mem _ member)
    have step {α : Type} {scan : Scan α} {next : α → Matcher} (plain : scan.Plain)
        (later : ∀ value, Innocent base (next value)) : Innocent base (scan >>= next) :=
      innocent_bind (innocent_of_plain plain) later
    cases action with
    | advance amount => exact step (.advance amount) fun _ => next
    | seek target => exact step (.seek target) fun _ => next
    | shift distance => exact step (.ask _) fun here => step (.seek _) fun _ => next
    | expect text =>
      refine step (.ask _) fun stands => ?_
      split
      · exact next
      · exact innocent_pure none
    | peek index => exact step (.unitAt index) fun unit => step (.emit rfl) fun _ => next
    | note text => exact step (.ask _) fun here => step (.emit rfl) fun _ => next
    | raise message => exact fun _ => faultsWithin_raise not_false
    | call expression =>
      refine innocent_bind (each expression List.mem_cons_self) fun matched => ?_
      cases matched with
      | none => exact innocent_pure none
      | some span => exact next
    | giveUp => exact innocent_pure none
    | give => exact step (.ask _) fun span => innocent_pure (some span)
    | giveFrom since => exact step (.ask _) fun span => innocent_pure (some span)
    | giveSpan first last => exact innocent_pure _

/-- Nothing happens on the way to what has been built. -/
theorem innocent_report {built : Build α} {next : α → Scan β} (yields : built.Yields value)
    (later : Innocent base (next value)) : Innocent base (built.report >>= next) := by
  intro position
  refine faultsWithin_bind ?_ ?_
  · intro fault stopped
    rw [Build.report, yields] at stopped
    cases stopped
  · rintro other stop ⟨returned, rfl⟩
    rw [Build.report, yields] at returned
    cases returned
    exact later _

theorem run_asPattern {part : Part} (call : Callable → Matcher)
    (made : part.asPattern = .ok pattern) : part.run call = pattern.run call := by
  cases part <;> cases made <;> rfl

/-- With a sound library, a sound callable is innocent however deep calls are nested. -/
theorem innocent_call (entries : SoundLibrary library) (sound : SoundCallable library target)
    (depth : Nat) : Innocent base (library.call depth target) := by
  -- Whatever a callable runs has one call less to spare, be it a pattern of the library or one that
  -- a script has just built.
  induction depth generalizing target with
  | zero => exact fun _ => faultsWithin_raise not_false
  | succ depth ih =>
    have inner {pattern : Pattern Callable} (met : pattern.Meets (soundParts library)) :
        Innocent base (pattern.run (library.call depth)) :=
      innocent_run (runnable_of_sound met fun _ own => ih own)
    cases target with
    | late name =>
      cases found : library.lookup name with
      | none =>
        simp only [Library.call, found]
        exact fun _ => faultsWithin_raise not_false
      | some pattern =>
        simp only [Library.call, found, delay_eq]
        exact inner (meets_of_lookup entries name pattern found)
    | script actions =>
      refine innocent_bind (innocent_of_plain (.ask _)) fun start => ?_
      refine innocent_perform (fun called member => ?_) start
      obtain ⟨part, pattern, yields, made, met⟩ :=
        sound_built entries (sound called member).2 (sound called member).1
      refine innocent_report yields ?_
      rw [run_asPattern _ made]
      exact inner met

theorem innocent_grammar {pattern : Pattern Callable} (entries : SoundLibrary library)
    (met : pattern.Meets (soundParts library)) : Innocent base (library.run pattern) := by
  refine innocent_bind (innocent_of_plain (.ask _)) fun extent => ?_
  exact innocent_run (runnable_of_sound met fun target own => innocent_call entries own _)

/-- What has been built is proper through and through: every observer in it can be told one span,
every predicate called, every text read and every count counted, no group is empty and nothing
stands for a pattern that is none. Unless it puts a label on a datum, it never stops with a misuse,
whatever its callables do, as long as none of them stops with one by itself; and a grammar of such
patterns never does, as long as its scripts come to build nothing else. -/
theorem built_never_misuses (library : Library) (expression : Expr) (pattern : Pattern Callable)
    (built : (expression.buildPattern library).result = .ok pattern) :
    (∀ inner, Within inner expression → Proper library inner) ∧
    ((∀ value label, ¬ Within (.labelled (.datum value) label) expression) →
      (∀ (call : Callable → Matcher) (cursor : Cursor),
        (∀ name other, library.lookup name = some other → other.Meets (runnable cursor call)) →
        (∀ name, Within (.late name) expression → Innocent cursor (call (.late name))) →
        (∀ label actions, Within (.script label actions) expression →
          Innocent cursor (call (.script actions))) →
        ∀ fault, ((pattern.run call).run cursor).outcome = .error fault → ¬ Misuse fault) ∧
      (SoundLibrary library →
        (∀ label actions, Within (.script label actions) expression →
          SoundCallable library (.script actions)) →
        ∀ cursor fault, ((library.run pattern).run cursor).outcome = .error fault →
          ¬ Misuse fault)) := by
  obtain ⟨usable, succeeds⟩ := succeeds_buildPattern.mp ⟨pattern, built⟩
  refine ⟨(succeeds_iff_proper expression).mp succeeds, fun bare => ⟨?_, ?_⟩⟩
  · intro call cursor named lates scripts
    have met : pattern.Meets (runnable cursor call) :=
      meets_of_built test_innocent question_innocent (fun _ => trivial) named lates scripts
        (fun value label within => bare value label within) built
    exact innocent_run met cursor.position
  · intro entries scripts cursor
    have met : pattern.Meets (soundParts library) :=
      meets_of_built test_innocent question_innocent (fun _ => trivial) (meets_of_lookup entries)
        (fun _ _ => trivial) scripts (fun value label within => bare value label within) built
    exact innocent_grammar entries met cursor.position

/-- An observer that takes a span and, by name only, something else that has a default. -/
def keenObserver : Observer.Offer :=
  .logger "o" (some [⟨"span", .positionOrName, false⟩, ⟨"depth", .name, true⟩])

/-- A letter that may be in brackets. The bracket behind it is looked for by a script, which builds
what it looks for when it is called and then stops the run. -/
def bracketedLetter : Expr :=
  .seq [.optional (.character (.text ['(']) .absent) keenObserver, .named "letter",
    .script "bracket" [.call (.literal (.text [')']) .absent), .raise "bracket"]] .absent

/-- The library that the letter is in. -/
def letters : Library :=
  [("letter", .ofClass .letter .silent)]

private theorem within_bracketedLetter {inner : Expr} (within : Within inner bracketedLetter) :
    inner ∈ [bracketedLetter, .optional (.character (.text ['(']) .absent) keenObserver,
      .character (.text ['(']) .absent, .named "letter",
      .script "bracket" [.call (.literal (.text [')']) .absent), .raise "bracket"]] := by
  obtain _ | ⟨member, within⟩ := within
  · exact .head _
  simp only [bracketedLetter, operands, List.mem_cons, List.not_mem_nil, or_false] at member
  rcases member with rfl | rfl | rfl
  · obtain _ | ⟨member, within⟩ := within
    · simp
    rw [List.mem_singleton.mp member, within_leaf rfl] at within
    simp [within]
  · simp [(within_leaf rfl).mp within]
  · simp [(within_leaf rfl).mp within]

private theorem closing_sound : Sound letters (.literal (.text [')']) .absent) := by
  have alone {inner : Expr} (within : Within inner (.literal (.text [')']) .absent)) :=
    (within_leaf rfl).mp within
  refine .intro ?_ ?_ ?_ ?_
  · intro inner within
    rw [alone within]
    exact ⟨⟨_, .text _, List.cons_ne_nil _ _⟩, trivial⟩
  · intro value label within
    cases alone within
  · intro label actions called within
    cases alone within
  · intro label actions called within
    cases alone within

private theorem bracketedLetter_sound :
    (∀ value label, ¬ Within (.labelled (.datum value) label) bracketedLetter) ∧
    ∀ label actions, Within (.script label actions) bracketedLetter →
      SoundCallable letters (.script actions) := by
  constructor
  · intro value label within
    simpa [bracketedLetter] using within_bracketedLetter within
  · intro label actions within called member
    obtain ⟨_, rfl⟩ : label = "bracket" ∧
        actions = [.call (.literal (.text [')']) .absent), .raise "bracket"] := by
      simpa [bracketedLetter] using within_bracketedLetter within
    obtain rfl : called = .literal (.text [')']) .absent := by simpa using member
    exact ⟨rfl, closing_sound⟩

/-- Everything the letter is made of is proper, its script builds nothing but a literal, and what
it stops with is the script's own. -/
theorem bracketedLetter_stops :
    SoundLibrary letters ∧
    ∃ pattern, (bracketedLetter.buildPattern letters).result = .ok pattern ∧
      ((letters.run pattern).run ⟨.text ['(', 'a', ')'], 0, 0, 3⟩).outcome =
        .error (.raised "bracket") ∧
      keenObserver.Fit ∧ ¬ Misuse (.raised "bracket") := by
  have entries : SoundLibrary letters := by
    intro entry member
    rw [List.mem_singleton.mp member]
    exact .unit (test_innocent _) trivial
  have built : ∃ pattern, (bracketedLetter.buildPattern letters).result = .ok pattern ∧
      ((letters.run pattern).run ⟨.text ['(', 'a', ')'], 0, 0, 3⟩).outcome =
        .error (.raised "bracket") := ⟨_, rfl, rfl⟩
  obtain ⟨pattern, built, stopped⟩ := built
  obtain ⟨proper, runs⟩ := built_never_misuses letters bracketedLetter pattern built
  refine ⟨entries, pattern, built, stopped, ?_, ?_⟩
  · exact (proper _ (.operand (.head _) .itself)).2
  · exact (runs bracketedLetter_sound.1).2 entries bracketedLetter_sound.2 _ _ stopped

/-- A datum under a label is not refused, and what it is taken for cannot be run. -/
theorem labelled_datum_misused :
    ¬ ∀ (library : Library) (expression : Expr) (pattern : Pattern Callable),
      (expression.buildPattern library).result = .ok pattern →
        ∀ cursor fault, ((library.run pattern).run cursor).outcome = .error fault →
          ¬ Misuse fault := by
  intro claimed
  exact claimed [] (.labelled (.datum (.int 5)) none) _ rfl ⟨.text ['a', 'b'], 0, 0, 2⟩
    (.notCallable "int") rfl trivial

end SpanLexer.Composition
