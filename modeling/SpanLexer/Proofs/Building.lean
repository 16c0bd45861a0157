import SpanLexer.Expr.Build
import SpanLexer.Proofs.Demand
import Mathlib.Data.List.Forall2

/-!
What can be built.

Whether an expression can be built is a question to each expression it is made of, `Proper`, which
looks at that expression's own arguments only and says what is asked of each of them: an observer
can be told one span, a predicate can be called, a text is one, a count is a natural number, no
group is empty, an operator has a pattern on one side at least, and nothing that is no pattern
stands where one is expected. What has been built holds no other parts than the expression asks for;
the one way to get at something that cannot be run is to put a label on a datum.
-/
namespace SpanLexer

namespace Observer

/-- A callable with these parameters can be called with so many arguments by position. Each
argument goes to the next parameter; what is given none needs a default, and behind a parameter
that is passed by name no argument is left to go anywhere. -/
def binds : Nat → List Parameter → Bool
  | count, [] => count == 0
  | count, parameter :: others =>
    match parameter.passing, count with
    | .position, 0 | .positionOrName, 0 => parameter.hasDefault && binds 0 others
    | .position, count + 1 | .positionOrName, count + 1 => binds count others
    | .allPositions, _ => binds 0 others
    | .name, count => count == 0 && parameter.hasDefault && binds 0 others
    | .allNames, count => count == 0 && binds 0 others

theorem binds_nothing (parameters : List Parameter) :
    binds 0 parameters = true ↔ ∀ parameter ∈ parameters, parameter.isRequired = false := by
  induction parameters with
  | nil => simp [binds]
  | cons parameter others ih =>
    obtain ⟨name, passing, hasDefault⟩ := parameter
    cases passing <;> simp [binds, Parameter.isRequired, ih]

/-- A callable is not refused exactly when one argument by position goes to its parameters. -/
theorem refusal?_eq_none (id : String) (parameters : List Parameter) :
    refusal? id parameters = none ↔ binds 1 parameters = true := by
  cases parameters with
  | nil => simp [refusal?, binds]
  | cons first others =>
    have required := binds_nothing others
    obtain ⟨name, passing, hasDefault⟩ := first
    cases passing <;> simp [refusal?, binds, Parameter.takesPosition, required]

/-- The offer can be told one span, or nothing is offered. -/
def Offer.Fit : Offer → Prop
  | .absent | .silent | .collector _ | .logger _ none | .interrupter _ _ => True
  | .logger _ (some parameters) => binds 1 parameters = true
  | .datum value => value = .null

theorem Offer.accept_iff_fit (offer : Offer) :
    (∃ observer, offer.accept = .ok observer) ↔ offer.Fit := by
  cases offer with
  | logger id parameters =>
    cases parameters with
    | none => simp [accept, Fit]
    | some parameters =>
      have bound := refusal?_eq_none id parameters
      simp only [accept, Fit, ← bound]
      cases refusal? id parameters <;> simp
  | datum value => cases value <;> simp [accept, Fit]
  | _ => simp [accept, Fit]

end Observer

/-- The argument is a text, and these are its characters. -/
inductive TextArgument.Reads : TextArgument → List Char → Prop where
  | text (characters : List Char) : Reads (.text characters) characters
  | octets (contents : List UInt8) : Reads (.octets contents) (contents.map Latin1.decode)
  | datum (value : String) : Reads (.datum (.text value)) value.toList

theorem TextArgument.characters_eq_ok {argument : TextArgument} {text : List Char} :
    argument.characters = .ok text ↔ argument.Reads text := by
  constructor
  · intro read
    unfold TextArgument.characters at read
    split at read <;> cases read
    · exact .text _
    · exact .octets _
    · exact .datum _
  · rintro ⟨⟩ <;> rfl

theorem Datum.count_eq_ok {given : Datum} : given.count = .ok number ↔ given = .int number := by
  cases given with
  | int value =>
    by_cases negative : value < 0
    · have different : value ≠ number := by omega
      simp [Datum.count, negative, different]
    · have same : value.toNat = number ↔ value = number := by omega
      simp [Datum.count, negative, same]
  | _ => simp [Datum.count]

namespace Build

instance : LawfulMonad Build := LawfulMonad.mk' Build
  (by
    rintro α ⟨opened, fault | value⟩ <;> simp [Functor.map, andThen, done])
  (by
    intro α β value next
    rfl)
  (by
    rintro α β γ ⟨opened, fault | value⟩ next last
    · rfl
    · simp only [bind, andThen]
      rcases next value with ⟨more, fault | value⟩ <;> simp)

/-- The value is what has been built. -/
def Yields (build : Build α) (value : α) : Prop :=
  build.result = .ok value

/-- There is nothing against what is to be built. -/
def Succeeds (build : Build α) : Prop :=
  ∃ value, build.Yields value

@[simp] theorem yields_pure {result : α} : (pure result : Build α).Yields value ↔ value = result := by
  simp only [Yields, pure, done, Except.ok.injEq]
  exact eq_comm

@[simp] theorem yields_bind {build : Build α} {next : α → Build β} :
    (build >>= next).Yields value ↔ ∃ first, build.Yields first ∧ (next first).Yields value := by
  simp only [Yields, bind, andThen]
  cases built : build.result <;> simp

@[simp] theorem yields_lift {given : Except Fault α} : (lift given).Yields value ↔ given = .ok value :=
  Iff.rfl

@[simp] theorem yields_refuse : (refuse why : Build α).Yields value ↔ False := by
  simp [Yields, refuse]

@[simp] theorem yields_unless {bad : Prop} [Decidable bad] {build : Build α} :
    (if bad then refuse why else build).Yields value ↔ ¬ bad ∧ build.Yields value := by
  by_cases refused : bad <;> simp [refused]

@[simp] theorem yields_offer {observer : Observer.Offer} : (offer observer).Yields value ↔ True := by
  simp only [Yields, offer]
  split <;> simp

theorem lift_ok (value : α) : (lift (.ok value) : Build α) = pure value := rfl

theorem refuse_bind (why : Malformed) (next : α → Build β) :
    (refuse why >>= next) = refuse why := rfl

theorem ite_bind (condition : Prop) [Decidable condition] (first second : Build α)
    (next : α → Build β) :
    (if condition then first else second) >>= next =
      if condition then first >>= next else second >>= next :=
  apply_ite (· >>= next) condition first second

/-- A last step that only puts things together opens no lists. -/
theorem opened_bind_pure (build : Build α) (next : α → β) :
    (build >>= fun value => pure (next value)).opened = build.opened := by
  obtain ⟨opened, fault | value⟩ := build
  · rfl
  · exact List.append_nil opened

/-- A last step that only puts things together refuses nothing. -/
theorem error_bind_pure (build : Build α) (next : α → β) :
    (build >>= fun value => pure (next value)).result = .error fault ↔
      build.result = .error fault := by
  obtain ⟨opened, refused | value⟩ := build
  · simp [bind, andThen]
  · exact ⟨nofun, nofun⟩

end Build

namespace Expr

/-- The expressions that an expression directly consists of. What a script may come to build is no
part of it. -/
def operands : Expr → List Expr
  | .seq parts _ | .choice parts _ => parts
  | .operator _ first second => [first, second]
  | .star body _ | .plus body _ | .times body _ _ | .optional body _ | .observed body _
  | .labelled body _ => [body]
  | _ => []

/-- The first expression is the second or one that it is made of. -/
inductive Within (inner : Expr) : Expr → Prop where
  | itself : Within inner inner
  | operand (member : part ∈ operands outer) (within : Within inner part) : Within inner outer

/-- A value that is no pattern. -/
def isDatum : Expr → Bool
  | .datum _ => true
  | _ => false

/-- A value that has no operators: a datum, or a callable that is not a pattern yet. -/
def isPlain : Expr → Bool
  | .datum _ | .late _ | .script _ _ => true
  | _ => false

/-- The arguments that an expression itself has are such that it can be built. -/
def Proper (library : Library) : Expr → Prop
  | .ofClass _ observer | .recipe _ observer => observer.Fit
  | .literal text observer => (∃ characters, text.Reads characters ∧ characters ≠ []) ∧ observer.Fit
  | .character text observer => (∃ wanted, text.Reads [wanted]) ∧ observer.Fit
  | .anyOf group observer | .noneOf group observer =>
    (∃ characters, group.Reads characters) ∧ observer.Fit
  | .unit predicate observer _ => (∀ value, predicate ≠ .datum value) ∧ observer.Fit
  | .seq parts observer | .choice parts observer =>
    parts ≠ [] ∧ (∀ part ∈ parts, part.isDatum = false) ∧ observer.Fit
  | .operator _ first second =>
    (∀ part ∈ [first, second], part.isDatum = false) ∧
      (first.isPlain = false ∨ second.isPlain = false)
  | .star body observer | .plus body observer | .optional body observer =>
    body.isDatum = false ∧ observer.Fit
  | .times body count observer =>
    body.isDatum = false ∧ (∃ number : Nat, count = .int number) ∧ observer.Fit
  | .observed body observer => body.isDatum = false ∧ observer.isAbsent = false ∧ observer.Fit
  | .labelled _ _ | .datum _ | .late _ | .script _ _ => True
  | .named name => ∃ pattern, library.lookup name = some pattern

theorem sizeOf_lt_of_operand (member : part ∈ operands outer) : sizeOf part < sizeOf outer := by
  cases outer <;> simp only [operands, List.mem_singleton, List.not_mem_nil] at member
  case seq | choice =>
    have smaller := List.sizeOf_lt_of_mem member
    simp only [seq.sizeOf_spec, choice.sizeOf_spec]
    omega
  case operator =>
    rcases List.mem_pair.mp member with rfl | rfl <;>
    · simp only [operator.sizeOf_spec]
      omega
  all_goals
    subst member
    simp only [star.sizeOf_spec, plus.sizeOf_spec, times.sizeOf_spec, optional.sizeOf_spec,
      observed.sizeOf_spec, labelled.sizeOf_spec]
    omega

/-- What holds of an expression as soon as it holds of its operands holds of every expression. -/
theorem induct_operands {motive : Expr → Prop}
    (step : ∀ outer, (∀ part ∈ operands outer, motive part) → motive outer) (outer : Expr) :
    motive outer :=
  step outer fun part _ => induct_operands step part
termination_by sizeOf outer
decreasing_by exact sizeOf_lt_of_operand ‹_›

/-- Only itself is within an expression without operands. -/
theorem within_leaf {inner outer : Expr} (leaf : operands outer = []) :
    Within inner outer ↔ inner = outer := by
  constructor
  · rintro (_ | ⟨member, _⟩)
    · rfl
    · rw [leaf] at member
      cases member
  · rintro rfl
    exact .itself

theorem forall_within {outer : Expr} {property : Expr → Prop} :
    (∀ inner, Within inner outer → property inner) ↔
      property outer ∧ ∀ part ∈ operands outer, ∀ inner, Within inner part → property inner := by
  constructor
  · intro every
    exact ⟨every outer .itself, fun part member inner within => every inner (.operand member within)⟩
  · rintro ⟨own, others⟩ inner (_ | ⟨member, within⟩)
    · exact own
    · exact others _ member inner within

/-- What an expression is built to, by what becomes of its arguments and of its parts. -/
inductive Makes (library : Library) : Expr → Part → Prop where
  | ofClass (told : offered.accept = .ok observer) :
      Makes library (.ofClass unitClass offered) (.pattern (.ofClass unitClass observer))
  | recipe (told : offered.accept = .ok observer) :
      Makes library (.recipe token offered) (.pattern (token.pattern observer))
  | literal (reads : text.Reads characters) (full : characters ≠ [])
      (told : offered.accept = .ok observer) :
      Makes library (.literal text offered) (.pattern (.literal characters observer))
  | character (reads : text.Reads [wanted]) (told : offered.accept = .ok observer) :
      Makes library (.character text offered) (.pattern (.character wanted observer))
  | anyOf (reads : text.Reads group) (told : offered.accept = .ok observer) :
      Makes library (.anyOf text offered) (.pattern (.anyOf group observer))
  | noneOf (reads : text.Reads group) (told : offered.accept = .ok observer) :
      Makes library (.noneOf text offered) (.pattern (.noneOf group observer))
  | unit (told : offered.accept = .ok observer) :
      Makes library (.unit (.question asked shown) offered label)
        (.pattern (.unit (Pattern.labelOr (label.getD "") "single_char") ⟨asked.test, shown⟩
          observer))
  | seq {parts : List Expr} (full : parts ≠ [])
      (each : List.Forall₂ (fun part => (buildPattern library part).Yields) parts patterns)
      (told : offered.accept = .ok observer) :
      Makes library (.seq parts offered) (.pattern (.seq patterns observer))
  | choice (full : alternatives ≠ [])
      (each : List.Forall₂ (fun part => (buildPattern library part).Yields) alternatives patterns)
      (told : offered.accept = .ok observer) :
      Makes library (.choice alternatives offered) (.pattern (.choice patterns observer))
  | operator (one : (first.build library).Yields left) (two : (second.build library).Yields right)
      (ready : left.isPattern = true ∨ right.isPattern = true)
      (all : Part.allPatterns [left, right] = .ok patterns) :
      Makes library (.operator sign first second) (.pattern (sign.compose patterns .silent))
  | star (inner : (body.buildPattern library).Yields pattern)
      (told : offered.accept = .ok observer) :
      Makes library (.star body offered) (.pattern (.star pattern observer))
  | plus (inner : (body.buildPattern library).Yields pattern)
      (told : offered.accept = .ok observer) :
      Makes library (.plus body offered) (.pattern (.plus pattern observer))
  | times {count : Nat} (inner : (body.buildPattern library).Yields pattern)
      (told : offered.accept = .ok observer) :
      Makes library (.times body (.int count) offered) (.pattern (.times pattern count observer))
  | optional (inner : (body.buildPattern library).Yields pattern)
      (told : offered.accept = .ok observer) :
      Makes library (.optional body offered) (.pattern (.optional pattern observer))
  | observed (inner : (body.buildPattern library).Yields pattern)
      (present : offered.isAbsent = false) (told : offered.accept = .ok observer) :
      Makes library (.observed body offered) (.pattern (.observed pattern observer))
  | labelled (inner : (body.build library).Yields part) :
      Makes library (.labelled body label) (.pattern (part.labelled (label.getD "")))
  | datum : Makes library (.datum value) (.datum value)
  | named (found : library.lookup name = some pattern) :
      Makes library (.named name) (.pattern pattern)
  | late : Makes library (.late name) (.callable "lazy" (.late name))
  | script : Makes library (.script label actions) (.callable label (.script actions))

theorem yields_buildPattern {expression : Expr} :
    (expression.buildPattern library).Yields pattern ↔
      ∃ part, (expression.build library).Yields part ∧ part.asPattern = .ok pattern := by
  simp [buildPattern]

/-- The parts of a group are built to patterns when each of them is. -/
theorem allPatterns_buildAll {expressions : List Expr} {patterns : List (Pattern Callable)} :
    (∃ built, (buildAll library expressions).Yields built ∧
      Part.allPatterns built = .ok patterns) ↔
      List.Forall₂ (fun part => (buildPattern library part).Yields) expressions patterns := by
  induction expressions generalizing patterns with
  | nil => simp [buildAll, Part.allPatterns, eq_comm]
  | cons expression others ih =>
    simp only [List.forall₂_cons_left_iff, ← ih, buildAll, Build.yields_bind, Build.yields_pure]
    constructor
    · rintro ⟨_, ⟨part, built, rest, each, rfl⟩, all⟩
      rw [Part.allPatterns] at all
      split at all <;> cases all
      exact ⟨_, _, yields_buildPattern.mpr ⟨part, built, ‹_›⟩, ⟨rest, each, ‹_›⟩, rfl⟩
    · rintro ⟨first, _, inner, ⟨rest, each, all⟩, rfl⟩
      obtain ⟨part, built, pattern⟩ := yields_buildPattern.mp inner
      exact ⟨part :: rest, ⟨part, built, rest, each, rfl⟩, by rw [Part.allPatterns, pattern, all]⟩

theorem isEmpty_of_buildAll {expressions : List Expr} {built : List Part}
    (yields : (buildAll library expressions).Yields built) :
    built.isEmpty = expressions.isEmpty := by
  cases expressions <;> simp only [buildAll, Build.yields_bind, Build.yields_pure] at yields
  · rw [yields]
    rfl
  · obtain ⟨_, _, _, _, rfl⟩ := yields
    rfl

/-- What has been built is as `Makes` says. -/
theorem makes_of_yields {expression : Expr} (built : (expression.build library).Yields part) :
    Makes library expression part := by
  cases expression <;> simp only [build, ofBody, Build.yields_bind, Build.yields_pure,
    Build.yields_lift, Build.yields_unless, Build.yields_offer, true_and, exists_const,
    Bool.not_eq_true] at built
  case ofClass =>
    obtain ⟨observer, told, rfl⟩ := built
    exact .ofClass told
  case recipe =>
    obtain ⟨observer, told, rfl⟩ := built
    exact .recipe told
  case literal =>
    obtain ⟨text, reads, full, observer, told, rfl⟩ := built
    exact .literal (TextArgument.characters_eq_ok.mp reads) (List.isEmpty_eq_false_iff.mp full) told
  case character =>
    obtain ⟨text, reads, built⟩ := built
    split at built
    · simp only [Build.yields_bind, Build.yields_pure, Build.yields_lift] at built
      obtain ⟨observer, told, rfl⟩ := built
      exact .character (TextArgument.characters_eq_ok.mp reads) told
    · exact (Build.yields_refuse.mp built).elim
  case anyOf =>
    obtain ⟨group, reads, observer, told, rfl⟩ := built
    exact .anyOf (TextArgument.characters_eq_ok.mp reads) told
  case noneOf =>
    obtain ⟨group, reads, observer, told, rfl⟩ := built
    exact .noneOf (TextArgument.characters_eq_ok.mp reads) told
  case unit predicate _ _ =>
    obtain ⟨asked, callable, observer, told, rfl⟩ := built
    cases predicate <;> cases callable
    exact .unit told
  case seq =>
    obtain ⟨parts, yields, full, patterns, all, observer, told, rfl⟩ := built
    rw [isEmpty_of_buildAll yields, List.isEmpty_eq_false_iff] at full
    exact .seq full (allPatterns_buildAll.mp ⟨parts, yields, all⟩) told
  case choice =>
    obtain ⟨parts, yields, full, patterns, all, observer, told, rfl⟩ := built
    rw [isEmpty_of_buildAll yields, List.isEmpty_eq_false_iff] at full
    exact .choice full (allPatterns_buildAll.mp ⟨parts, yields, all⟩) told
  case operator =>
    obtain ⟨left, one, right, two, built⟩ := built
    split at built
    · rename_i ready
      simp only [Build.yields_bind, Build.yields_pure, Build.yields_lift] at built
      obtain ⟨patterns, all, rfl⟩ := built
      exact .operator one two (Bool.or_eq_true_iff.mp ready) all
    · cases built
  case star =>
    obtain ⟨part, inner, pattern, made, observer, told, rfl⟩ := built
    exact .star (yields_buildPattern.mpr ⟨part, inner, made⟩) told
  case plus =>
    obtain ⟨part, inner, pattern, made, observer, told, rfl⟩ := built
    exact .plus (yields_buildPattern.mpr ⟨part, inner, made⟩) told
  case times =>
    obtain ⟨part, inner, pattern, made, number, counted, observer, told, rfl⟩ := built
    cases Datum.count_eq_ok.mp counted
    exact .times (yields_buildPattern.mpr ⟨part, inner, made⟩) told
  case optional =>
    obtain ⟨part, inner, pattern, made, observer, told, rfl⟩ := built
    exact .optional (yields_buildPattern.mpr ⟨part, inner, made⟩) told
  case observed =>
    obtain ⟨part, inner, present, pattern, made, observer, told, rfl⟩ := built
    exact .observed (yields_buildPattern.mpr ⟨part, inner, made⟩) present told
  case labelled =>
    obtain ⟨part, inner, rfl⟩ := built
    exact .labelled inner
  case datum => exact built ▸ .datum
  case named =>
    split at built
    · exact Build.yields_pure.mp built ▸ .named ‹_›
    · cases built
  case late => exact built ▸ .late
  case script => exact built ▸ .script

/-- Whatever `Makes` says is built. -/
theorem yields_of_makes {expression : Expr} (makes : Makes library expression part) :
    (expression.build library).Yields part := by
  cases makes <;> simp only [build, ofBody, Build.yields_bind, Build.yields_pure,
    Build.yields_lift, Build.yields_unless, Build.yields_offer, true_and, exists_const,
    Bool.not_eq_true, List.isEmpty_eq_false_iff]
  case ofClass told => exact ⟨_, told, rfl⟩
  case recipe told => exact ⟨_, told, rfl⟩
  case literal reads full told =>
    exact ⟨_, TextArgument.characters_eq_ok.mpr reads, full, _, told, rfl⟩
  case character reads told =>
    refine ⟨_, TextArgument.characters_eq_ok.mpr reads, ?_⟩
    exact Build.yields_bind.mpr ⟨_, told, rfl⟩
  case anyOf reads told => exact ⟨_, TextArgument.characters_eq_ok.mpr reads, _, told, rfl⟩
  case noneOf reads told => exact ⟨_, TextArgument.characters_eq_ok.mpr reads, _, told, rfl⟩
  case unit told => exact ⟨_, rfl, _, told, rfl⟩
  case seq full each told =>
    obtain ⟨parts, yields, all⟩ := allPatterns_buildAll.mpr each
    rw [← List.isEmpty_eq_false_iff, ← isEmpty_of_buildAll yields] at full
    exact ⟨parts, yields, List.isEmpty_eq_false_iff.mp full, _, all, _, told, rfl⟩
  case choice full each told =>
    obtain ⟨parts, yields, all⟩ := allPatterns_buildAll.mpr each
    rw [← List.isEmpty_eq_false_iff, ← isEmpty_of_buildAll yields] at full
    exact ⟨parts, yields, List.isEmpty_eq_false_iff.mp full, _, all, _, told, rfl⟩
  case operator one two ready all =>
    refine ⟨_, one, _, two, ?_⟩
    rw [if_pos (Bool.or_eq_true_iff.mpr ready)]
    exact Build.yields_bind.mpr ⟨_, all, rfl⟩
  case star inner told =>
    obtain ⟨part, built, made⟩ := yields_buildPattern.mp inner
    exact ⟨part, built, _, made, _, told, rfl⟩
  case plus inner told =>
    obtain ⟨part, built, made⟩ := yields_buildPattern.mp inner
    exact ⟨part, built, _, made, _, told, rfl⟩
  case times inner told =>
    obtain ⟨part, built, made⟩ := yields_buildPattern.mp inner
    exact ⟨part, built, _, made, _, Datum.count_eq_ok.mpr rfl, _, told, rfl⟩
  case optional inner told =>
    obtain ⟨part, built, made⟩ := yields_buildPattern.mp inner
    exact ⟨part, built, _, made, _, told, rfl⟩
  case observed inner present told =>
    obtain ⟨part, built, made⟩ := yields_buildPattern.mp inner
    exact ⟨part, built, present, _, made, _, told, rfl⟩
  case labelled inner => exact ⟨_, inner, rfl⟩
  case named found =>
    rw [found]
    rfl

/-- What is built is a pattern already, unless the expression is a plain value. -/
theorem isPattern_iff {expression : Expr} (built : (expression.build library).Yields part) :
    part.isPattern = true ↔ expression.isPlain = false := by
  cases makes_of_yields built <;> simp [Part.isPattern, isPlain]

/-- What is built is a pattern or a callable, unless the expression is a datum. -/
theorem asPattern_iff {expression : Expr} (built : (expression.build library).Yields part) :
    (∃ pattern, part.asPattern = .ok pattern) ↔ expression.isDatum = false := by
  cases makes_of_yields built <;> simp [Part.asPattern, isDatum]

theorem succeeds_buildPattern {expression : Expr} :
    (expression.buildPattern library).Succeeds ↔
      expression.isDatum = false ∧ (expression.build library).Succeeds := by
  simp only [Build.Succeeds, yields_buildPattern]
  constructor
  · rintro ⟨pattern, part, built, made⟩
    exact ⟨(asPattern_iff built).mp ⟨pattern, made⟩, part, built⟩
  · rintro ⟨usable, part, built⟩
    obtain ⟨pattern, made⟩ := (asPattern_iff built).mpr usable
    exact ⟨pattern, part, built, made⟩

/-- Two operands are built to patterns when each of them is. -/
theorem operands_built {first second : Expr} (one : (first.build library).Yields left)
    (two : (second.build library).Yields right) :
    Part.allPatterns [left, right] = .ok patterns ↔
      List.Forall₂ (fun part => (buildPattern library part).Yields) [first, second] patterns := by
  have both : (buildAll library [first, second]).Yields [left, right] := by
    simp only [buildAll, Build.yields_bind, Build.yields_pure]
    exact ⟨left, one, [right], ⟨right, two, [], rfl, rfl⟩, rfl⟩
  rw [← allPatterns_buildAll]
  constructor
  · exact fun all => ⟨_, both, all⟩
  · rintro ⟨built, yields, all⟩
    rw [← Except.ok.inj (both.symm.trans yields)] at all
    exact all

/-- A group can be built to patterns when each of its parts can. -/
theorem each_succeeds {parts : List Expr} :
    (∃ patterns, List.Forall₂ (fun part => (buildPattern library part).Yields) parts patterns) ↔
      ∀ part ∈ parts, part.isDatum = false ∧ (part.build library).Succeeds := by
  simp only [← succeeds_buildPattern]
  induction parts with
  | nil => simp
  | cons part others ih =>
    simp only [List.forall_mem_cons, ← ih]
    constructor
    · rintro ⟨_, _ | ⟨first, later⟩⟩
      exact ⟨⟨_, first⟩, _, later⟩
    · rintro ⟨⟨pattern, first⟩, patterns, later⟩
      exact ⟨pattern :: patterns, .cons first later⟩

private theorem proper_of_makes {expression : Expr} (makes : Makes library expression part) :
    Proper library expression := by
  have fit {offered : Observer.Offer} {observer : Observer} (told : offered.accept = .ok observer) :
      offered.Fit := offered.accept_iff_fit.mp ⟨observer, told⟩
  have usable {body : Expr} {pattern : Pattern Callable}
      (inner : (body.buildPattern library).Yields pattern) : body.isDatum = false :=
    (succeeds_buildPattern.mp ⟨pattern, inner⟩).1
  cases makes with
  | ofClass told | recipe told => exact fit told
  | literal reads full told => exact ⟨⟨_, reads, full⟩, fit told⟩
  | character reads told | anyOf reads told | noneOf reads told => exact ⟨⟨_, reads⟩, fit told⟩
  | unit told => exact ⟨nofun, fit told⟩
  | seq full each told | choice full each told =>
    exact ⟨full, fun part member => (each_succeeds.mp ⟨_, each⟩ part member).1, fit told⟩
  | operator one two ready all =>
    refine ⟨fun part member => ?_, ready.imp (isPattern_iff one).mp (isPattern_iff two).mp⟩
    exact (each_succeeds.mp ⟨_, (operands_built one two).mp all⟩ part member).1
  | star inner told | plus inner told | optional inner told => exact ⟨usable inner, fit told⟩
  | times inner told => exact ⟨usable inner, ⟨_, rfl⟩, fit told⟩
  | observed inner present told => exact ⟨usable inner, present, fit told⟩
  | labelled | datum | late | script => trivial
  | named found => exact ⟨_, found⟩

private theorem operands_of_makes {expression : Expr} (makes : Makes library expression made) :
    ∀ part ∈ operands expression, (part.build library).Succeeds := by
  have single {body : Expr} {pattern : Pattern Callable}
      (inner : (body.buildPattern library).Yields pattern) :
      ∀ part ∈ [body], (part.build library).Succeeds := by
    intro part member
    rw [List.mem_singleton.mp member]
    exact (succeeds_buildPattern.mp ⟨pattern, inner⟩).2
  cases makes with
  | seq _ each _ | choice _ each _ =>
    exact fun part member => (each_succeeds.mp ⟨_, each⟩ part member).2
  | operator one two _ all =>
    exact fun part member =>
      (each_succeeds.mp ⟨_, (operands_built one two).mp all⟩ part member).2
  | star inner | plus inner | times inner | optional inner | observed inner => exact single inner
  | labelled inner =>
    intro part member
    rw [List.mem_singleton.mp member]
    exact ⟨_, inner⟩
  | _ => exact fun part member => (List.not_mem_nil member).elim

private theorem makes_of_proper {expression : Expr} (proper : Proper library expression)
    (each : ∀ part ∈ operands expression, (part.build library).Succeeds) :
    ∃ part, Makes library expression part := by
  have told {offered : Observer.Offer} (fit : offered.Fit) := offered.accept_iff_fit.mpr fit
  have single {body : Expr} (usable : body.isDatum = false)
      (inner : ∀ part ∈ [body], (part.build library).Succeeds) :=
    succeeds_buildPattern.mpr ⟨usable, inner body (List.mem_singleton_self _)⟩
  cases expression with
  | ofClass =>
    obtain ⟨_, told⟩ := told proper
    exact ⟨_, .ofClass told⟩
  | recipe =>
    obtain ⟨_, told⟩ := told proper
    exact ⟨_, .recipe told⟩
  | literal =>
    obtain ⟨⟨_, reads, full⟩, fit⟩ := proper
    obtain ⟨_, told⟩ := told fit
    exact ⟨_, .literal reads full told⟩
  | character =>
    obtain ⟨⟨_, reads⟩, fit⟩ := proper
    obtain ⟨_, told⟩ := told fit
    exact ⟨_, .character reads told⟩
  | anyOf =>
    obtain ⟨⟨_, reads⟩, fit⟩ := proper
    obtain ⟨_, told⟩ := told fit
    exact ⟨_, .anyOf reads told⟩
  | noneOf =>
    obtain ⟨⟨_, reads⟩, fit⟩ := proper
    obtain ⟨_, told⟩ := told fit
    exact ⟨_, .noneOf reads told⟩
  | unit predicate =>
    obtain ⟨callable, fit⟩ := proper
    obtain ⟨_, told⟩ := told fit
    cases predicate with
    | question => exact ⟨_, .unit told⟩
    | datum value => exact (callable value rfl).elim
  | seq =>
    obtain ⟨full, usable, fit⟩ := proper
    obtain ⟨_, told⟩ := told fit
    obtain ⟨_, made⟩ := each_succeeds.mpr fun part member => ⟨usable part member, each part member⟩
    exact ⟨_, .seq full made told⟩
  | choice =>
    obtain ⟨full, usable, fit⟩ := proper
    obtain ⟨_, told⟩ := told fit
    obtain ⟨_, made⟩ := each_succeeds.mpr fun part member => ⟨usable part member, each part member⟩
    exact ⟨_, .choice full made told⟩
  | operator sign first second =>
    obtain ⟨usable, ready⟩ := proper
    obtain ⟨_, made⟩ := each_succeeds.mpr fun part member => ⟨usable part member, each part member⟩
    obtain ⟨_, one⟩ := each first (List.mem_pair.mpr (.inl rfl))
    obtain ⟨_, two⟩ := each second (List.mem_pair.mpr (.inr rfl))
    exact ⟨_, .operator one two (ready.imp (isPattern_iff one).mpr (isPattern_iff two).mpr)
      ((operands_built one two).mpr made)⟩
  | star =>
    obtain ⟨_, told⟩ := told proper.2
    obtain ⟨_, inner⟩ := single proper.1 each
    exact ⟨_, .star inner told⟩
  | plus =>
    obtain ⟨_, told⟩ := told proper.2
    obtain ⟨_, inner⟩ := single proper.1 each
    exact ⟨_, .plus inner told⟩
  | times =>
    obtain ⟨usable, ⟨_, rfl⟩, fit⟩ := proper
    obtain ⟨_, told⟩ := told fit
    obtain ⟨_, inner⟩ := single usable each
    exact ⟨_, .times inner told⟩
  | optional =>
    obtain ⟨_, told⟩ := told proper.2
    obtain ⟨_, inner⟩ := single proper.1 each
    exact ⟨_, .optional inner told⟩
  | observed =>
    obtain ⟨usable, present, fit⟩ := proper
    obtain ⟨_, told⟩ := told fit
    obtain ⟨_, inner⟩ := single usable each
    exact ⟨_, .observed inner present told⟩
  | labelled body =>
    obtain ⟨_, inner⟩ := each body (List.mem_singleton_self _)
    exact ⟨_, .labelled inner⟩
  | datum => exact ⟨_, .datum⟩
  | named =>
    obtain ⟨_, found⟩ := proper
    exact ⟨_, .named found⟩
  | late => exact ⟨_, .late⟩
  | script => exact ⟨_, .script⟩

/-- An operator between two expressions composes what they are built to, unless both are plain. -/
theorem yields_operator {first second : Expr} :
    ((Expr.operator sign first second).buildPattern library).Yields pattern ↔
      (first.isPlain = false ∨ second.isPlain = false) ∧
        ∃ left right, (first.buildPattern library).Yields left ∧
          (second.buildPattern library).Yields right ∧
          pattern = sign.compose [left, right] .silent := by
  rw [yields_buildPattern]
  constructor
  · rintro ⟨part, built, made⟩
    cases makes_of_yields built with
    | operator one two ready all =>
      cases made
      refine ⟨ready.imp (isPattern_iff one).mp (isPattern_iff two).mp, ?_⟩
      cases (operands_built one two).mp all with
      | cons left later =>
        cases later with
        | cons right none_left =>
          cases none_left
          exact ⟨_, _, left, right, rfl⟩
  · rintro ⟨ready, left, right, one, two, rfl⟩
    obtain ⟨_, builtLeft, _⟩ := yields_buildPattern.mp one
    obtain ⟨_, builtRight, _⟩ := yields_buildPattern.mp two
    refine ⟨_, yields_of_makes (.operator builtLeft builtRight ?_ ?_), rfl⟩
    · exact ready.imp (isPattern_iff builtLeft).mpr (isPattern_iff builtRight).mpr
    · exact (operands_built builtLeft builtRight).mpr (.cons one (.cons two .nil))

example : ((Expr.and (.script "f" []) (.late "g")).buildPattern []).result =
    .error (.operandsUnsupported "&" "function" "function") := rfl

/-- An expression can be built exactly when everything it is made of is proper. -/
theorem succeeds_iff_proper (expression : Expr) :
    (expression.build library).Succeeds ↔
      ∀ inner, Within inner expression → Proper library inner := by
  induction expression using induct_operands with
  | step outer ih =>
    rw [forall_within]
    constructor
    · rintro ⟨part, built⟩
      have makes := makes_of_yields built
      refine ⟨proper_of_makes makes, fun part member => ?_⟩
      exact (ih part member).mp (operands_of_makes makes part member)
    · rintro ⟨proper, each⟩
      obtain ⟨part, makes⟩ :=
        makes_of_proper proper fun part member => (ih part member).mpr (each part member)
      exact ⟨part, yields_of_makes makes⟩

private theorem each_meets {parts : List Expr} {patterns : List (Pattern Callable)}
    (each : List.Forall₂ (fun part => (buildPattern library part).Yields) parts patterns)
    (met : ∀ {part pattern}, part ∈ parts → (buildPattern library part).Yields pattern →
      pattern.Meets demand) : ∀ pattern ∈ patterns, pattern.Meets demand := by
  induction each with
  | nil => exact fun pattern member => (List.not_mem_nil member).elim
  | cons built _ ih =>
    refine List.forall_mem_cons.mpr ⟨met List.mem_cons_self built, ?_⟩
    exact ih fun held => met (List.mem_cons_of_mem _ held)

private theorem compose_meets {sign : Operator} {parts : List (Pattern κ)}
    (each : ∀ part ∈ parts, part.Meets demand) (told : demand.observer observer) :
    (sign.compose parts observer).Meets demand := by
  cases sign with
  | and => exact .seq each told
  | or => exact .choice each told

/-- What an expression is built to meets a demand that its questions, its observers and its
callables meet, provided that the patterns it refers to by name meet it, and that it puts no label
on a datum unless what cannot be run is tolerated. -/
theorem meets_of_built {demand : Demand Callable} {expression : Expr}
    (tests : ∀ test, demand.predicate (.ofBool test))
    (questions : ∀ asked shown, demand.predicate ⟨Question.test asked, shown⟩)
    (observers : ∀ observer, demand.observer observer)
    (named : ∀ name pattern, library.lookup name = some pattern → pattern.Meets demand)
    (lates : ∀ name, Within (.late name) expression → demand.callable (.late name))
    (scripts : ∀ label actions, Within (.script label actions) expression →
      demand.callable (.script actions))
    (data : ∀ value label, Within (.labelled (.datum value) label) expression → demand.inert)
    (built : (expression.buildPattern library).Yields pattern) : pattern.Meets demand := by
  induction expression using induct_operands generalizing pattern with
  | step outer ih =>
    obtain ⟨part, yields, made⟩ := yields_buildPattern.mp built
    have makes := makes_of_yields yields
    have inner {body : Expr} {pattern : Pattern Callable} (member : body ∈ operands outer)
        (inner : (body.buildPattern library).Yields pattern) : pattern.Meets demand :=
      ih body member (fun name within => lates name (.operand member within))
        (fun label actions within => scripts label actions (.operand member within))
        (fun value label within => data value label (.operand member within)) inner
    cases makes with
    | ofClass | character | anyOf | noneOf =>
      cases made
      exact .unit (tests _) (observers _)
    | recipe =>
      cases made
      exact Recipe.pattern_meets tests (observers _) (observers _) _
    | literal =>
      cases made
      exact .literal (observers _)
    | unit =>
      cases made
      exact .unit (questions _ _) (observers _)
    | seq _ each =>
      cases made
      exact .seq (each_meets each inner) (observers _)
    | choice _ each =>
      cases made
      exact .choice (each_meets each inner) (observers _)
    | operator one two _ all =>
      cases made
      exact compose_meets (each_meets ((operands_built one two).mp all) inner) (observers _)
    | star body =>
      cases made
      exact .star (inner (List.mem_singleton_self _) body) (observers _)
    | plus body =>
      cases made
      exact .plus (inner (List.mem_singleton_self _) body) (observers _)
    | times body =>
      cases made
      exact .times (inner (List.mem_singleton_self _) body) (observers _)
    | optional body =>
      cases made
      exact .optional (inner (List.mem_singleton_self _) body) (observers _)
    | observed body =>
      cases made
      exact .observed (inner (List.mem_singleton_self _) body) (observers _)
    | @labelled _ _ part body =>
      cases made
      have single {pattern : Pattern Callable} (given : part.asPattern = .ok pattern) :
          pattern.Meets demand :=
        inner (List.mem_singleton_self _) (yields_buildPattern.mpr ⟨part, body, given⟩)
      -- A label on a callable gives a callable of that label, and on a datum what cannot be run.
      cases makes_of_yields body with
      | datum => exact .inert (data _ _ .itself)
      | late | script =>
        cases single rfl with
        | callable called => exact .callable called
      | _ => exact .labelled (single rfl)
    | datum => cases made
    | named found =>
      cases made
      exact named _ _ found
    | late =>
      cases made
      exact .callable (lates _ .itself)
    | script =>
      cases made
      exact .callable (scripts _ _ .itself)

end Expr

end SpanLexer
