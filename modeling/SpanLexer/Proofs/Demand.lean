import SpanLexer.Pattern.Recipe

/-!
Demands on the parts of a pattern: on its predicates, its observers, its callables, and whether it
may hold what cannot be run at all.

A statement about all patterns of a kind is a statement about all patterns that meet a demand, and
its proof is an induction on `Meets`, which has one case for each kind of pattern.
-/
namespace SpanLexer

/-- What is asked of the parts of a pattern. -/
structure Demand (κ : Type) where
  predicate : Predicate → Prop
  observer : Observer → Prop
  callable : κ → Prop
  inert : Prop

/-- All parts of a pattern are as demanded. -/
inductive Pattern.Meets (demand : Demand κ) : Pattern κ → Prop where
  | unit (asked : demand.predicate predicate) (told : demand.observer observer) :
      Meets demand (.unit name predicate observer)
  | literal (told : demand.observer observer) : Meets demand (.literal text observer)
  | seq (each : ∀ part ∈ parts, Meets demand part) (told : demand.observer observer) :
      Meets demand (.seq parts observer)
  | choice (each : ∀ part ∈ alternatives, Meets demand part) (told : demand.observer observer) :
      Meets demand (.choice alternatives observer)
  | star (inner : Meets demand body) (told : demand.observer observer) :
      Meets demand (.star body observer)
  | plus (inner : Meets demand body) (told : demand.observer observer) :
      Meets demand (.plus body observer)
  | times (inner : Meets demand body) (told : demand.observer observer) :
      Meets demand (.times body count observer)
  | optional (inner : Meets demand body) (told : demand.observer observer) :
      Meets demand (.optional body observer)
  | observed (inner : Meets demand body) (told : demand.observer observer) :
      Meets demand (.observed body observer)
  | labelled (inner : Meets demand body) : Meets demand (.labelled name body)
  | callable (called : demand.callable target) : Meets demand (.callable name target)
  | inert (tolerated : demand.inert) : Meets demand (.inert name typeName)

/-- What meets a demand meets every lesser one. -/
theorem Pattern.Meets.mono {pattern : Pattern κ} (met : pattern.Meets demand)
    (predicates : ∀ predicate, demand.predicate predicate → lesser.predicate predicate)
    (observers : ∀ observer, demand.observer observer → lesser.observer observer)
    (callables : ∀ target, demand.callable target → lesser.callable target)
    (inerts : demand.inert → lesser.inert) : pattern.Meets lesser := by
  induction met with
  | unit asked told => exact .unit (predicates _ asked) (observers _ told)
  | literal told => exact .literal (observers _ told)
  | seq _ told ih => exact .seq ih (observers _ told)
  | choice _ told ih => exact .choice ih (observers _ told)
  | star _ told ih => exact .star ih (observers _ told)
  | plus _ told ih => exact .plus ih (observers _ told)
  | times _ told ih => exact .times ih (observers _ told)
  | optional _ told ih => exact .optional ih (observers _ told)
  | observed _ told ih => exact .observed ih (observers _ told)
  | labelled _ ih => exact .labelled ih
  | callable called => exact .callable (callables _ called)
  | inert tolerated => exact .inert (inerts tolerated)

/-- Two parts in turn are as demanded when each of them is. -/
theorem Pattern.Meets.pair (first : Meets demand one) (later : Meets demand other)
    (told : demand.observer observer) : Meets demand (.seq [one, other] observer) := by
  apply Pattern.Meets.seq
  · intro part member
    simp only [List.mem_cons, List.not_mem_nil, or_false] at member
    rcases member with rfl | rfl
    · exact first
    · exact later
  · exact told

/-- Any parts at all are as demanded. -/
structure Demand.Free (demand : Demand κ) : Prop where
  predicate : ∀ predicate, demand.predicate predicate
  observer : ∀ observer, demand.observer observer
  callable : ∀ target, demand.callable target
  inert : demand.inert

mutual

/-- Every pattern meets a demand that any parts meet. -/
theorem Pattern.meets_of_free {demand : Demand κ} (free : demand.Free) :
    (pattern : Pattern κ) → pattern.Meets demand
  | .unit _ _ _ => .unit (free.predicate _) (free.observer _)
  | .literal _ _ => .literal (free.observer _)
  | .seq parts _ => .seq (Pattern.meetsEach_of_free free parts) (free.observer _)
  | .choice alternatives _ =>
    .choice (Pattern.meetsEach_of_free free alternatives) (free.observer _)
  | .star body _ => .star (Pattern.meets_of_free free body) (free.observer _)
  | .plus body _ => .plus (Pattern.meets_of_free free body) (free.observer _)
  | .times body _ _ => .times (Pattern.meets_of_free free body) (free.observer _)
  | .optional body _ => .optional (Pattern.meets_of_free free body) (free.observer _)
  | .observed body _ => .observed (Pattern.meets_of_free free body) (free.observer _)
  | .labelled _ body => .labelled (Pattern.meets_of_free free body)
  | .callable _ _ => .callable (free.callable _)
  | .inert _ _ => .inert free.inert

theorem Pattern.meetsEach_of_free {demand : Demand κ} (free : demand.Free) :
    (parts : List (Pattern κ)) → ∀ part ∈ parts, part.Meets demand
  | first :: _, _, .head _ => Pattern.meets_of_free free first
  | _ :: others, part, .tail _ later => Pattern.meetsEach_of_free free others part later

end

namespace Demand

/-- Only the callables matter. -/
def ofCallables (wanted : κ → Prop) : Demand κ :=
  ⟨fun _ => True, fun _ => True, wanted, True⟩

/-- Only the observers matter. -/
def ofObservers (wanted : Observer → Prop) : Demand κ :=
  ⟨fun _ => True, wanted, fun _ => True, True⟩

end Demand

/-- What is demanded of the callables of a pattern may be all that matters. -/
theorem Pattern.Meets.callables {pattern : Pattern κ} (met : pattern.Meets demand)
    (each : ∀ target, demand.callable target → wanted target) :
    pattern.Meets (.ofCallables wanted) :=
  met.mono (fun _ _ => trivial) (fun _ _ => trivial) each fun _ => trivial

namespace Recipe

variable {demand : Demand κ}

theorem digits_meets (asked : ∀ test, demand.predicate (.ofBool test))
    (silent : demand.observer .silent) : (digits : Pattern κ).Meets demand :=
  .plus (.unit (asked _) silent) silent

theorem guard_meets (asked : ∀ test, demand.predicate (.ofBool test))
    (silent : demand.observer .silent) : (guard : Pattern κ).Meets demand :=
  .times (.unit (asked _) silent) silent

theorem address_meets (asked : ∀ test, demand.predicate (.ofBool test))
    (silent : demand.observer .silent) (told : demand.observer observer) :
    (address observer : Pattern κ).Meets demand := by
  apply Pattern.Meets.pair (digits_meets asked silent) _ told
  exact .times (.pair (.unit (asked _) silent) (digits_meets asked silent) silent) silent

/-- Recipes hold no callables, and no observers but the given one. -/
theorem pattern_meets (asked : ∀ test, demand.predicate (.ofBool test))
    (silent : demand.observer .silent) (told : demand.observer observer) (recipe : Recipe) :
    (recipe.pattern observer : Pattern κ).Meets demand := by
  have unit (name : String) (test : Char → Bool) :
      (Pattern.unit name (.ofBool test) .silent : Pattern κ).Meets demand :=
    .unit (asked test) silent
  cases recipe with
  | quotedString =>
    exact .pair (.pair (unit _ _) (.plus (unit _ _) told) silent) (unit _ _) silent
  | dottedAddress => exact address_meets asked silent told
  | addressReport =>
    have guarded := guard_meets asked silent
    apply Pattern.Meets.pair _ guarded silent
    apply Pattern.Meets.pair _ (address_meets asked silent told) silent
    exact .pair guarded (.literal silent) silent
  | signedInteger =>
    exact .pair (.optional (unit _ _) silent) (digits_meets asked silent) told
  | hexNumber => exact .pair (.literal silent) (.plus (unit _ _) told) silent

end Recipe

end SpanLexer
