import SpanLexer.Proofs.Building
import SpanLexer.Proofs.Choices

/-!
An observer as an argument, and an observer put around.

Most expressions tell the observer they are given the span of their whole match. Each does so in
its own place and makes the span in its own way, and some of them have several ways to end with a
match. It is always the last thing they do. So the observer may as well be left out and be put
around the whole: what can be built, its name and its runs are the same.
-/
namespace SpanLexer.Wrapping
open Scan Matcher Choices

section Matchers

/-- To tell the span at the end of a scan is to tell it at the end of its last step. -/
theorem observed_bind (scan : Scan α) (next : α → Matcher) (observer : Observer) :
    observed (scan >>= next) observer = scan >>= fun value => observed (next value) observer := by
  simp only [observed, bind_assoc]

theorem observed_ite (condition : Prop) [Decidable condition] (first second : Matcher)
    (observer : Observer) :
    observed (if condition then first else second) observer =
      if condition then observed first observer else observed second observer :=
  apply_ite (observed · observer) condition first second

theorem observed_none (observer : Observer) : observed (pure none) observer = pure none := by
  simp only [observed, pure_bind]

theorem observed_conclude (start : Nat) (observer : Observer) :
    observed (conclude start .silent) observer = conclude start observer := by
  simp only [observed, conclude, notify, bind_assoc, pure_bind]

theorem unit_eq_observed (predicate : Predicate) (observer : Observer) :
    unit predicate observer = observed (unit predicate .silent) observer := by
  simp only [unit, observed_bind, observed_ite, observed_none, observed_conclude]

theorem literal_eq_observed (text : List Char) (observer : Observer) :
    literal text observer = observed (literal text .silent) observer := by
  simp only [literal, observed_bind, observed_ite, observed_none, observed_conclude]

theorem seq_eq_observed (parts : List Matcher) (observer : Observer) :
    seq parts observer = observed (seq parts .silent) observer := by
  simp only [seq, observed_bind, observed_ite, observed_none, observed_conclude]

theorem choice_eq_observed_silent (alternatives : List Matcher) (observer : Observer) :
    choice alternatives observer = observed (choice alternatives .silent) observer := by
  simp only [choice_eq_observed, observed_bind, observed_silent]

theorem star_eq_observed (label : String) (body : Matcher) (observer : Observer) :
    star label body observer = observed (star label body .silent) observer := by
  simp only [Matcher.star, observed_bind, observed_conclude]

theorem plus_eq_observed (label : String) (body : Matcher) (observer : Observer) :
    plus label body observer = observed (plus label body .silent) observer := by
  simp only [plus, observed_bind]
  congr 2
  funext start
  congr 1
  funext matched
  cases matched with
  | none => exact (observed_none observer).symm
  | some span => simp only [observed_bind, observed_conclude]

theorem times_eq_observed (body : Matcher) (count : Nat) (observer : Observer) :
    times body count observer = observed (times body count .silent) observer := by
  rw [times_eq_seq, times_eq_seq]
  exact seq_eq_observed _ observer

/-- The observer of an optional match is told the body's own span or the empty one. -/
theorem optional_eq_observed (body : Matcher) (observer : Observer) :
    Matcher.optional body observer = observed (Matcher.optional body .silent) observer := by
  simp only [Matcher.optional, observed_bind]
  congr 1
  funext matched
  cases matched with
  | none => simp only [observed_bind, observed_conclude]
  | some span => simp only [observed, notify, pure_bind]

end Matchers

/-- Patterns of one shape, all of which tell their own observer the span of the whole match. -/
inductive TellsWhole : (Observer → Pattern κ) → Prop where
  | unit (named : label ≠ "") : TellsWhole (.unit label predicate)
  | literal : TellsWhole (.literal text)
  | seq : TellsWhole (.seq parts)
  | choice : TellsWhole (.choice alternatives)
  | star : TellsWhole (.star body)
  | plus : TellsWhole (.plus body)
  | times : TellsWhole (.times body count)
  | optional : TellsWhole (.optional body)

section Shapes

variable {shape : Observer → Pattern κ}

theorem run_eq_observed (tells : TellsWhole shape) (call : κ → Matcher) (observer : Observer) :
    (shape observer).run call = (Pattern.observed (shape .silent) observer).run call := by
  cases tells with
  | unit => exact unit_eq_observed _ observer
  | literal => exact literal_eq_observed _ observer
  | seq => exact seq_eq_observed _ observer
  | choice => exact choice_eq_observed_silent _ observer
  | star => exact star_eq_observed _ _ observer
  | plus => exact plus_eq_observed _ _ observer
  | times => exact times_eq_observed _ _ observer
  | optional => exact optional_eq_observed _ observer

theorem labelOr_ne_empty {otherwise : String} (named : otherwise ≠ "") (label : String) :
    Pattern.labelOr label otherwise ≠ "" := by
  by_cases empty : label = "" <;> simp [Pattern.labelOr, empty, named]

/-- The observer does not show in the name, and the name is never empty. -/
theorem label_eq_observed (tells : TellsWhole shape) (observer : Observer) :
    (shape observer).label = (Pattern.observed (shape .silent) observer).label := by
  have named : (shape .silent).label ≠ "" := by
    cases tells with
    | unit named => exact named
    | seq => exact labelOr_ne_empty (by simp) _
    | choice => exact labelOr_ne_empty (by simp) _
    | _ => simp [Pattern.label]
  have same : (shape observer).label = (shape .silent).label := by
    cases tells <;> rfl
  simp [Pattern.label, Pattern.labelOr, same, named]

end Shapes

/-- A shape holds the same callables under any observer, so that its calls may be nested as deep. -/
theorem library_run_eq_observed {shape : Observer → Pattern Callable} (tells : TellsWhole shape)
    (library : Library) (observer : Observer) :
    library.run (shape observer) = library.run (.observed (shape .silent) observer) := by
  have same : (shape observer).weight = (Pattern.observed (shape .silent) observer).weight := by
    cases tells <;> simp only [Pattern.weight]
  simp only [Library.run, Library.depth, same, run_eq_observed tells]

section Building
open Build

/-- The expressions whose observer is told the span of the whole match, with all their other
arguments. -/
inductive Attaches : (Observer.Offer → Expr) → Prop where
  | ofClass : Attaches (.ofClass unitClass)
  | dottedAddress : Attaches (.recipe .dottedAddress)
  | signedInteger : Attaches (.recipe .signedInteger)
  | literal : Attaches (.literal text)
  | character : Attaches (.character text)
  | anyOf : Attaches (.anyOf group)
  | noneOf : Attaches (.noneOf group)
  | unit : Attaches fun offered => .unit predicate offered label
  | seq : Attaches (.seq parts)
  | choice : Attaches (.choice alternatives)
  | star : Attaches (.star body)
  | plus : Attaches (.plus body)
  | times : Attaches (.times body count)
  | optional : Attaches (.optional body)

/-- Building the expression goes in three steps: what is offered is made, the other arguments are
checked and built, and the pattern they make gets the observer, if that can be accepted. -/
def Assembled (library : Library) (make : Observer.Offer → Expr) : Prop :=
  ∃ (α : Type) (arguments : Build α) (shape : α → Observer → Pattern Callable),
    (∀ value, TellsWhole (shape value)) ∧
    ∀ offered, (make offered).build library =
      offer offered >>= fun _ => arguments >>= fun value =>
        lift offered.accept >>= fun observer => pure (.pattern (shape value observer))

/-- Nothing but the observer has to be checked. -/
theorem assembled_plain {make : Observer.Offer → Expr} {shape : Observer → Pattern Callable}
    (tells : TellsWhole shape)
    (built : ∀ offered, (make offered).build library =
      offer offered >>= fun _ =>
        lift offered.accept >>= fun observer => pure (.pattern (shape observer))) :
    Assembled library make :=
  ⟨Unit, pure (), fun _ => shape, fun _ => tells, built⟩

/-- A body has to be built. -/
theorem assembled_body {make : Observer.Offer → Expr} {body : Expr}
    {shape : Pattern Callable → Observer → Pattern Callable}
    (tells : ∀ pattern, TellsWhole (shape pattern))
    (built : ∀ offered, (make offered).build library =
      offer offered >>= fun _ =>
        body.build library >>= fun part => Expr.ofBody part offered shape) :
    Assembled library make := by
  refine ⟨_, body.buildPattern library, shape, tells, fun offered => ?_⟩
  simp only [built, Expr.ofBody, Expr.buildPattern, bind_assoc]

/-- Several parts have to be built, of which there must be some. -/
theorem assembled_parts {make : Observer.Offer → Expr} {parts : List Expr} {none_given : Malformed}
    {shape : List (Pattern Callable) → Observer → Pattern Callable}
    (tells : ∀ patterns, TellsWhole (shape patterns))
    (built : ∀ offered, (make offered).build library =
      offer offered >>= fun _ => Expr.buildAll library parts >>= fun built =>
        if built.isEmpty then refuse none_given else
          lift (Part.allPatterns built) >>= fun patterns =>
            lift offered.accept >>= fun observer => pure (.pattern (shape patterns observer))) :
    Assembled library make := by
  refine ⟨_, Expr.buildAll library parts >>= fun built =>
    if built.isEmpty then refuse none_given else lift (Part.allPatterns built), shape, tells,
    fun offered => ?_⟩
  simp only [built, bind_assoc, ite_bind, refuse_bind]

theorem class_label_ne_empty (unitClass : UnitClass) : unitClass.label ≠ "" := by
  cases unitClass <;> simp [UnitClass.label]

/-- Exactly one character has to be given. -/
theorem assembled_character (text : TextArgument) (library : Library) :
    Assembled library (.character text) := by
  have tells (wanted : Char) : TellsWhole (.character wanted : Observer → Pattern Callable) :=
    .unit (by simp)
  rcases read : text.characters with fault | _ | ⟨wanted, _ | ⟨second, others⟩⟩
  · refine ⟨_, lift (.error fault), .character, tells, fun offered => ?_⟩
    simp only [Expr.build, read]
    rfl
  · refine ⟨_, refuse (.notOneCharacter []), .character, tells, fun offered => ?_⟩
    simp only [Expr.build, read, lift_ok, pure_bind, refuse_bind]
  · refine ⟨_, pure wanted, .character, tells, fun offered => ?_⟩
    simp only [Expr.build, read, lift_ok, pure_bind]
  · refine ⟨_, refuse (.notOneCharacter (wanted :: second :: others)), .character, tells,
      fun offered => ?_⟩
    simp only [Expr.build, read, lift_ok, pure_bind, refuse_bind]

theorem assembled_of_attaches (attaches : Attaches make) (library : Library) :
    Assembled library make := by
  cases attaches with
  | ofClass => exact assembled_plain (.unit (class_label_ne_empty _)) fun _ => rfl
  | dottedAddress => exact assembled_plain .seq fun _ => rfl
  | signedInteger => exact assembled_plain .seq fun _ => rfl
  | @literal text =>
    refine ⟨_, lift text.characters >>= fun text =>
      if text.isEmpty then refuse .emptyLiteral else pure text, .literal, fun _ => .literal, ?_⟩
    intro offered
    simp only [Expr.build, bind_assoc, ite_bind, refuse_bind, pure_bind]
  | character => exact assembled_character _ library
  | @anyOf group =>
    exact ⟨_, lift group.characters, .anyOf, fun _ => .unit (by simp), fun _ => rfl⟩
  | @noneOf group =>
    exact ⟨_, lift group.characters, .noneOf, fun _ => .unit (by simp), fun _ => rfl⟩
  | @unit predicate label =>
    exact ⟨_, lift predicate.accept, .unit (Pattern.labelOr (label.getD "") "single_char"),
      fun _ => .unit (labelOr_ne_empty (by simp) _), fun _ => rfl⟩
  | seq => exact assembled_parts (fun _ => .seq) fun _ => rfl
  | choice => exact assembled_parts (fun _ => .choice) fun _ => rfl
  | star => exact assembled_body (fun _ => .star) fun _ => rfl
  | plus => exact assembled_body (fun _ => .plus) fun _ => rfl
  | @times body count =>
    refine ⟨_, body.buildPattern library >>= fun pattern =>
      lift count.count >>= fun number => pure (pattern, number),
      fun arguments => .times arguments.1 arguments.2, fun _ => .times, ?_⟩
    intro offered
    simp only [Expr.build, Expr.buildPattern, bind_assoc, pure_bind]
  | optional => exact assembled_body (fun _ => .optional) fun _ => rfl

/-- With the observer inside, without it, and with it around, a pattern of the same shape is built
from the same arguments. -/
theorem buildPattern_of_attaches (attaches : Attaches make)
    (accepted : offered.accept = .ok observer) (present : offered.isAbsent = false)
    (library : Library) :
    ∃ (α : Type) (arguments : Build α) (shape : α → Observer → Pattern Callable),
      (∀ value, TellsWhole (shape value)) ∧
      ((make offered).buildPattern library =
        (offer offered >>= fun _ => arguments) >>= fun value => pure (shape value observer)) ∧
      ((make .absent).buildPattern library =
        arguments >>= fun value => pure (shape value .silent)) ∧
      (Expr.observed (make .absent) offered).buildPattern library =
        (offer offered >>= fun _ => arguments) >>= fun value =>
          pure (.observed (shape value .silent) observer) := by
  obtain ⟨α, arguments, shape, tells, built⟩ := assembled_of_attaches attaches library
  have plain : (make .absent).build library =
      arguments >>= fun value => pure (.pattern (shape value .silent)) := built .absent
  refine ⟨α, arguments, shape, tells, ?_, ?_, ?_⟩
  · simp only [Expr.buildPattern, built, accepted, lift_ok, bind_assoc, pure_bind, Part.asPattern]
  · simp only [Expr.buildPattern, plain, lift_ok, bind_assoc, pure_bind, Part.asPattern]
  · simp only [Expr.buildPattern, Expr.build, plain, present, accepted, lift_ok, bind_assoc,
      pure_bind, Bool.false_eq_true, ↓reduceIte, Part.asPattern, Expr.ofBody]

end Building

/-- Take any expression whose observer is told the span of the whole match, and offer it something
that can be accepted. Leave the observer out and put it around instead. The same lists are opened,
and the two are refused for the same reasons. Where they are built, they have the same name and the
same runs, over whatever callables there are and in every library.

So the observer is told after everything else. It is told once, and told the span that is matched,
also where that is the empty span of an optional match; and it decides whether the run goes on. It
is not told of a miss or a fault. -/
theorem observer_argument_is_wrapper (library : Library) (make : Observer.Offer → Expr)
    (attaches : Attaches make) (offered : Observer.Offer) (observer : Observer)
    (accepted : offered.accept = .ok observer) (present : offered.isAbsent = false) :
    ((make offered).buildPattern library).opened =
      ((Expr.observed (make .absent) offered).buildPattern library).opened ∧
    (∀ fault, ((make offered).buildPattern library).result = .error fault ↔
      ((Expr.observed (make .absent) offered).buildPattern library).result = .error fault) ∧
    ∀ own, ((make offered).buildPattern library).Yields own →
      ∃ bare, ((make .absent).buildPattern library).Yields bare ∧
        ((Expr.observed (make .absent) offered).buildPattern library).Yields
          (.observed bare observer) ∧
        own.label = (Pattern.observed bare observer).label ∧
        (∀ call, own.run call = (Pattern.observed bare observer).run call) ∧
        (∀ later : Library, later.run own = later.run (.observed bare observer)) ∧
        ∀ call cursor,
          (∀ span stop trace, (bare.run call).run cursor = ⟨.ok (some span), stop, trace⟩ →
            (own.run call).run cursor =
              ⟨observer.reaction.map fun _ => some span, stop,
                trace ++ observer.notes (cursor.moveTo stop) span⟩) ∧
          ((∀ span, ((bare.run call).run cursor).outcome ≠ .ok (some span)) →
            (own.run call).run cursor = (bare.run call).run cursor) := by
  obtain ⟨α, arguments, shape, tells, inside, without, around⟩ :=
    buildPattern_of_attaches attaches accepted present library
  rw [inside, without, around]
  refine ⟨?_, ?_, ?_⟩
  · rw [Build.opened_bind_pure, Build.opened_bind_pure]
  · intro fault
    rw [Build.error_bind_pure, Build.error_bind_pure]
  · intro own yields
    obtain ⟨value, made, given⟩ := Build.yields_bind.mp yields
    obtain rfl := Build.yields_pure.mp given
    obtain ⟨_, _, checked⟩ := Build.yields_bind.mp made
    have same (call : Callable → Matcher) := run_eq_observed (tells value) call observer
    refine ⟨shape value .silent,
      Build.yields_bind.mpr ⟨value, checked, Build.yields_pure.mpr rfl⟩,
      Build.yields_bind.mpr ⟨value, made, Build.yields_pure.mpr rfl⟩,
      label_eq_observed (tells value) observer, same,
      fun later => library_run_eq_observed (tells value) later observer, fun call cursor => ?_⟩
    rw [same call]
    exact ⟨fun span stop trace ran => run_observed_match ran observer,
      fun unmatched => run_observed_unmatched unmatched observer⟩

/-- A callable that loses its way, or else nothing. -/
def strayOptional (offered : Observer.Offer) : Expr :=
  .optional (.script "lost" [.advance 1, .note "lost", .giveUp]) offered

/-- The callable misses and does not go back. The empty span is matched where it was left, and the
observer stops the run there. -/
theorem strayOptional_wrapped :
    Attaches strayOptional ∧
    (Observer.Offer.interrupter "x" "stop").accept = .ok (.interrupt "x" "stop") ∧
    (Observer.Offer.interrupter "x" "stop").isAbsent = false ∧
    ((strayOptional (.interrupter "x" "stop")).buildPattern []).Yields
      (.optional (.callable "lost" lost) (.interrupt "x" "stop")) ∧
    ((Expr.observed (strayOptional .absent) (.interrupter "x" "stop")).buildPattern []).Yields
      (.observed (.optional (.callable "lost" lost) .silent) (.interrupt "x" "stop")) ∧
    (Pattern.observed (.optional (.callable "lost" lost) .silent) (.interrupt "x" "stop")).label =
      "maybe(lost)" ∧
    ((Pattern.optional (.callable "lost" lost) (.interrupt "x" "stop")).run
      (Library.call [] 1)).run letters =
        ⟨.error (.raised "stop"), 1, [.noted "lost" 1, .observed (.log "x") ⟨1, 1⟩ [] 1]⟩ := by
  have attaches : Attaches strayOptional := .optional
  have accepted : (Observer.Offer.interrupter "x" "stop").accept = .ok (.interrupt "x" "stop") :=
    rfl
  obtain ⟨_, _, each⟩ :=
    observer_argument_is_wrapper [] strayOptional attaches _ _ accepted rfl
  obtain ⟨bare, plain, wrapped, named, _, _, runs⟩ := each _ rfl
  obtain rfl : .optional (.callable "lost" lost) .silent = bare := Except.ok.inj plain
  have told := (runs (Library.call [] 1) letters).1 ⟨1, 1⟩ 1 [.noted "lost" 1] rfl
  exact ⟨attaches, accepted, rfl, rfl, wrapped, named.symm.trans rfl, told⟩

end SpanLexer.Wrapping
