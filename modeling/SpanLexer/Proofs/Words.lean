import Mathlib.Computability.Language
import Mathlib.Data.List.TakeWhile

/-!
Longest words.

A matcher that takes as much as it can and never gives anything back finds the longest word of
a product of languages only if the first factor cannot swallow what the second one needs. `Before`
says just that: wherever a word of the first language is followed by a word of the second one, no
longer word of the first one stands there. It holds when the words of the first language are all of
one length, or when they cannot go on with what the words of the second one begin with; and it is
inherited by products and powers.
-/
namespace SpanLexer
open scoped Computability

/-- The words of one unit of a kind. -/
def oneOf (kind : Char → Prop) : Language Char :=
  {word | ∃ unit, kind unit ∧ word = [unit]}

/-- One or more words of a language. -/
def someOf (language : Language Char) : Language Char :=
  language * language∗

/-- The word is in the language, the input starts with it, and with no longer word of the
language. -/
structure Longest (language : Language Char) (input word : List Char) : Prop where
  member : word ∈ language
  stands : word <+: input
  most : ∀ other ∈ language, other <+: input → other.length ≤ word.length

/-- The input does not start with a word of the language. -/
def Absent (language : Language Char) (input : List Char) : Prop :=
  ∀ word ∈ language, ¬ word <+: input

namespace Words

variable {first second third language : Language Char} {kind : Char → Prop}
variable {input word other : List Char}

/-- Where a word of the first language is followed by one of the second, no longer word of the first
language stands. -/
def Before (first second : Language Char) : Prop :=
  ∀ ⦃input word next other⦄, word ∈ first → next ∈ second → word ++ next <+: input →
    other ∈ first → other <+: input → other.length ≤ word.length

/-- All words of the language have so many units. -/
def Uniform (language : Language Char) (size : Nat) : Prop :=
  ∀ word ∈ language, word.length = size

/-- No word of the language begins with a unit of the kind, and none is empty. -/
def Shuns (language : Language Char) (kind : Char → Prop) : Prop :=
  ∀ word ∈ language, ∃ unit rest, word = unit :: rest ∧ ¬ kind unit

theorem mem_oneOf : word ∈ oneOf kind ↔ ∃ unit, kind unit ∧ word = [unit] :=
  Iff.rfl

theorem mem_kstar_oneOf : word ∈ (oneOf kind)∗ ↔ ∀ unit ∈ word, kind unit := by
  rw [Language.mem_kstar]
  constructor
  · rintro ⟨words, rfl, each⟩ unit held
    obtain ⟨single, member, held⟩ := List.mem_flatten.mp held
    obtain ⟨own, right, rfl⟩ := each single member
    rw [List.mem_singleton.mp held]
    exact right
  · intro right
    refine ⟨word.map fun unit => [unit], ?_, ?_⟩
    · rw [← List.flatMap_def, List.flatMap_singleton']
    · intro single member
      obtain ⟨unit, held, rfl⟩ := List.mem_map.mp member
      exact ⟨unit, right unit held, rfl⟩

/-- One or more units of a kind are a word that is not empty and all of that kind. -/
theorem mem_someOf_oneOf :
    word ∈ someOf (oneOf kind) ↔ word ≠ [] ∧ ∀ unit ∈ word, kind unit := by
  simp only [someOf, Language.mem_mul, mem_oneOf, mem_kstar_oneOf]
  constructor
  · rintro ⟨_, ⟨unit, right, rfl⟩, rest, each, rfl⟩
    exact ⟨List.cons_ne_nil _ _, List.forall_mem_cons.mpr ⟨right, each⟩⟩
  · rintro ⟨full, each⟩
    obtain ⟨unit, rest, rfl⟩ := List.exists_cons_of_ne_nil full
    obtain ⟨right, each⟩ := List.forall_mem_cons.mp each
    exact ⟨[unit], ⟨unit, right, rfl⟩, rest, each, rfl⟩

theorem stands_of_append (stands : word ++ other <+: input) : word <+: input :=
  (List.prefix_append word other).trans stands

/-- What follows a word that an input starts with is what the rest of the input starts with. -/
theorem append_stands_iff (stands : word <+: input) :
    word ++ other <+: input ↔ other <+: input.drop word.length := by
  obtain ⟨rest, rfl⟩ := stands
  rw [List.prefix_append_right_inj, List.drop_left]

theorem before_of_uniform (uniform : Uniform first size) (second : Language Char) :
    Before first second := by
  intro input word next other member _ _ also _
  rw [uniform word member, uniform other also]

/-- Units of a kind come to an end before what begins with another unit. -/
theorem before_of_shuns (shuns : Shuns second kind) : Before (someOf (oneOf kind)) second := by
  intro input word next other _ behind stands also stands'
  obtain ⟨unit, rest, rfl, wrong⟩ := shuns next behind
  by_contra longer
  -- A longer word would have to hold the unit that the next one begins with.
  have begun : (word ++ [unit]) ++ rest <+: input := by rwa [List.append_assoc]
  have held : word ++ [unit] <+: other := by
    refine List.prefix_of_prefix_length_le (stands_of_append begun) stands' ?_
    rw [List.length_append, List.length_singleton]
    omega
  exact wrong ((mem_someOf_oneOf.mp also).2 unit (held.subset (by simp)))

/-- A unit that may be missing is not taken away from what begins with another unit. -/
theorem optional_before_of_shuns (shuns : Shuns second kind) :
    Before (1 + oneOf kind) second := by
  rintro input word next other (rfl | ⟨_, _, rfl⟩) behind stands (rfl | ⟨unit, right, rfl⟩) stands'
  · exact Nat.le_refl _
  · obtain ⟨begun, rest, rfl, wrong⟩ := shuns next behind
    obtain ⟨_, rfl⟩ := stands
    obtain ⟨_, same⟩ := stands'
    cases same
    exact (wrong right).elim
  · exact Nat.zero_le _
  · exact Nat.le_refl _

/-- Two words of one input, each followed by what comes behind the language, are the same. -/
theorem Before.unique (before : Before first second) (one : word ∈ first) (two : other ∈ first)
    (next : after ∈ second) (next' : after' ∈ second) (stands : word ++ after <+: input)
    (stands' : other ++ after' <+: input) : word = other := by
  have low := before one next stands two (stands_of_append stands')
  have high := before two next' stands' one (stands_of_append stands)
  exact (List.prefix_of_prefix_length_le (stands_of_append stands) (stands_of_append stands')
    high).eq_of_length_le low

theorem before_mul (inner : Before first second) (outer : Before second third) :
    Before (first * second) third := by
  rintro input _ next _ ⟨start, one, word, member, rfl⟩ behind stands
    ⟨start', two, other, also, rfl⟩ stands'
  have inside := stands_of_append stands
  -- Both words have the same word of the first language, so only what follows it is compared.
  obtain rfl := inner.unique one two member also inside stands'
  have here := stands_of_append inside
  simp only [List.append_assoc] at stands
  rw [append_stands_iff here] at stands stands'
  have bound := outer member behind stands also stands'
  simp only [List.length_append]
  omega

theorem uniform_one : Uniform 1 0 := by
  rintro word rfl
  rfl

theorem before_pow (itself : Before language language) (count : Nat) :
    Before (language ^ count) language := by
  induction count with
  | zero => exact before_of_uniform uniform_one language
  | succ count ih => exact pow_succ language count ▸ before_mul ih itself

theorem uniform_oneOf (kind : Char → Prop) : Uniform (oneOf kind) 1 := by
  rintro word ⟨unit, _, rfl⟩
  rfl

theorem uniform_text (text : List Char) : Uniform {text} text.length := by
  rintro word rfl
  rfl

theorem uniform_mul (one : Uniform first size) (two : Uniform second size') :
    Uniform (first * second) (size + size') := by
  rintro _ ⟨word, member, next, behind, rfl⟩
  simp only [List.length_append, one word member, two next behind]

theorem shuns_oneOf {own : Char → Prop} (apart : ∀ unit, own unit → ¬ kind unit) :
    Shuns (oneOf own) kind := by
  rintro word ⟨unit, right, rfl⟩
  exact ⟨unit, [], rfl, apart unit right⟩

/-- A product begins as its first factor does. -/
theorem shuns_mul (shuns : Shuns first kind) (second : Language Char) :
    Shuns (first * second) kind := by
  rintro _ ⟨word, member, next, _, rfl⟩
  obtain ⟨unit, rest, rfl, wrong⟩ := shuns word member
  exact ⟨unit, rest ++ next, rfl, wrong⟩

/-- An input that starts with a word of a product starts with one of its first factor. -/
theorem absent_mul (absent : Absent first input) (second : Language Char) :
    Absent (first * second) input := by
  rintro _ ⟨word, member, next, _, rfl⟩ stands
  exact absent word member (stands_of_append stands)

/-- Only the longest word of the first factor can be followed by a word of the second. -/
theorem eq_of_before (longest : Longest first input word) (before : Before first second)
    (member : own ∈ first) (behind : next ∈ second) (stands : own ++ next <+: input) :
    own = word := by
  have here := stands_of_append stands
  have low := longest.most own member here
  have high := before member behind stands longest.member longest.stands
  exact (List.prefix_of_prefix_length_le here longest.stands low).eq_of_length_le high

/-- When the longest word of the first factor is taken, no word of the product is lost. -/
theorem absent_of_longest (longest : Longest first input word) (before : Before first second)
    (absent : Absent second (input.drop word.length)) : Absent (first * second) input := by
  rintro _ ⟨own, member, next, behind, rfl⟩ stands
  obtain rfl := eq_of_before longest before member behind stands
  exact absent next behind ((append_stands_iff longest.stands).mp stands)

/-- The longest words of two factors make the longest word of their product. -/
theorem longest_mul (longest : Longest first input word) (before : Before first second)
    (later : Longest second (input.drop word.length) other) :
    Longest (first * second) input (word ++ other) where
  member := Language.append_mem_mul longest.member later.member
  stands := (append_stands_iff longest.stands).mpr later.stands
  most := by
    rintro _ ⟨own, member, next, behind, rfl⟩ stands
    obtain rfl := eq_of_before longest before member behind stands
    have bound := later.most next behind ((append_stands_iff longest.stands).mp stands)
    simp only [List.length_append]
    omega

/-- The units of a kind that an input starts with are the longest word of such units. -/
theorem longest_takeWhile {test : Char → Bool} (right : ∀ unit, test unit = true ↔ kind unit)
    (full : input.takeWhile test ≠ []) :
    Longest (someOf (oneOf kind)) input (input.takeWhile test) where
  member := mem_someOf_oneOf.mpr
    ⟨full, fun unit held => (right unit).mp (List.mem_takeWhile_imp held)⟩
  stands := List.takeWhile_prefix test
  most := by
    rintro other member ⟨rest, rfl⟩
    have each := (mem_someOf_oneOf.mp member).2
    rw [List.takeWhile_append_of_pos fun unit held => (right unit).mpr (each unit held)]
    simp only [List.length_append]
    omega

end Words

end SpanLexer
