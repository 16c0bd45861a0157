import SpanLexer.Proofs.Faults
import SpanLexer.Proofs.RecipeObservers
import SpanLexer.Proofs.Words

/-!
The languages of the recipes.

A recipe matches greedily: each of its parts takes what it can, and nothing is given back to let
a later part match. What it matches is nevertheless the longest word of a regular language that the
remaining units start with, and it misses only when they start with none. For every recipe this
rests on what `Words.Before` says of its parts: no part swallows what the next one needs.
-/
namespace SpanLexer

namespace Recipe

/-- One or more digits. -/
def digitsLanguage : Language Char :=
  someOf (oneOf fun unit => '0' ≤ unit ∧ unit ≤ '9')

/-- Four groups of digits with points between them. -/
def addressLanguage : Language Char :=
  digitsLanguage * oneOf (· = '.') * digitsLanguage * oneOf (· = '.') * digitsLanguage *
    oneOf (· = '.') * digitsLanguage

/-- Two line breaks, each of either kind. -/
def guardLanguage : Language Char :=
  oneOf (fun unit => unit = '\r' ∨ unit = '\n') * oneOf fun unit => unit = '\r' ∨ unit = '\n'

/-- The words that a recipe is for. -/
def language : Recipe → Language Char
  | .quotedString => oneOf (· = '\x22') * someOf (oneOf (· ≠ '\x22')) * oneOf (· = '\x22')
  | .dottedAddress => addressLanguage
  | .addressReport => guardLanguage * {"+CGPADDR: ".toList} * addressLanguage * guardLanguage
  | .signedInteger => (1 + oneOf fun unit => unit = '+' ∨ unit = '-') * digitsLanguage
  | .hexNumber => {['0', 'x']} * someOf (oneOf fun unit =>
      ('0' ≤ unit ∧ unit ≤ '9') ∨ ('a' ≤ unit ∧ unit ≤ 'f') ∨ ('A' ≤ unit ∧ unit ≤ 'F'))

/-- How many units of a word stand before the value and how many behind it. -/
def margins : Recipe → Nat × Nat
  | .quotedString => (1, 1)
  | .dottedAddress => (0, 0)
  | .addressReport => (12, 2)
  | .signedInteger => (0, 0)
  | .hexNumber => (2, 0)

end Recipe

namespace RecipeLanguages
open Scan Matcher Words RecipeObservers

variable {base : Cursor} {first second language : Language Char} {kind : Char → Prop}

/-- From every position ahead the matcher matches the longest word of the language that stands
there, or nothing when none does. -/
def Lexes (base : Cursor) (matcher : Matcher) (language : Language Char) : Prop :=
  ∀ start, base.Ahead start →
    (∃ word, Longest language (base.moveTo start).rest word ∧
      matcher.Returns (base.moveTo start) (some ⟨start, (start + word.length : Nat)⟩)
        (start + word.length)) ∨
    (Absent language (base.moveTo start).rest ∧ matcher.Returns (base.moveTo start) none start)

/-- The same for matchers in a row. -/
def LexesRow (base : Cursor) (matchers : List Matcher) (language : Language Char) : Prop :=
  ∀ start, base.Ahead start →
    (∃ word, Longest language (base.moveTo start).rest word ∧
      (allMatch matchers).Returns (base.moveTo start) true (start + word.length)) ∨
    (Absent language (base.moveTo start).rest ∧
      ∃ stop, (allMatch matchers).Returns (base.moveTo start) false stop)

/-- Behind a word that stands at a position are the units that the word leaves. -/
theorem rest_behind (inside : base.Inside) (ahead : base.Ahead start)
    (stands : word <+: (base.moveTo start).rest) :
    base.Ahead (start + word.length) ∧
      (base.moveTo (start + word.length)).rest = (base.moveTo start).rest.drop word.length := by
  have here := Cursor.inside_moveTo inside ahead
  have room := stands.length_le
  rw [Cursor.length_rest here, Cursor.remaining_moveTo] at room
  have low := ahead.1
  have high := ahead.2
  have further : (base.moveTo start).Ahead (start + word.length) := by
    constructor
    · exact Nat.le_add_right _ _
    · simp only [Cursor.moveTo_limit]
      omega
  refine ⟨Contract.ahead_trans ahead further, ?_⟩
  have left := Cursor.rest_moveTo here further
  rwa [Cursor.moveTo_moveTo, Cursor.moveTo_position, Nat.add_sub_cancel_left] at left

theorem lexes_unit (inside : base.Inside) {test : Char → Bool}
    (right : ∀ unit, test unit = true ↔ kind unit) :
    Lexes base (unit (.ofBool test) .silent) (oneOf kind) := by
  intro start ahead
  have here := Cursor.inside_moveTo inside ahead
  cases units : (base.moveTo start).rest with
  | nil =>
    refine .inr ⟨?_, returns_unit.mpr (.inl ⟨?_, rfl, rfl⟩)⟩
    · rintro word ⟨unit, _, rfl⟩ stands
      cases List.prefix_nil.mp stands
    · exact (Cursor.remaining_eq_zero_iff here).mpr units
  | cons next others =>
    have left : (base.moveTo start).remaining ≠ 0 := by
      rw [Ne, Cursor.remaining_eq_zero_iff here, units]
      exact List.cons_ne_nil _ _
    have found := Cursor.unitAt_zero here units
    cases tested : test next with
    | true =>
      refine .inl ⟨[next], ⟨⟨next, (right next).mp tested, rfl⟩, ⟨others, rfl⟩, ?_⟩, ?_⟩
      · rintro other ⟨unit, _, rfl⟩ _
        exact Nat.le_refl _
      · exact returns_unit.mpr (.inr ⟨next, left, found, .inr ⟨congrArg _ tested, trivial, rfl, rfl⟩⟩)
    | false =>
      refine .inr ⟨?_, ?_⟩
      · rintro word ⟨unit, accepted, rfl⟩ ⟨_, same⟩
        cases same
        rw [(right _).mpr accepted] at tested
        cases tested
      · exact returns_unit.mpr (.inr ⟨next, left, found, .inl ⟨congrArg _ tested, rfl, rfl⟩⟩)

theorem lexes_literal (inside : base.Inside) (text : List Char) :
    Lexes base (literal text .silent) {text} := by
  intro start ahead
  have stands := Cursor.startsWith_iff (Cursor.inside_moveTo inside ahead) text
  cases found : (base.moveTo start).startsWith text with
  | true =>
    refine .inl ⟨text, ⟨rfl, stands.mp found, ?_⟩, ?_⟩
    · rintro other rfl _
      exact Nat.le_refl _
    · exact returns_literal.mpr (.inr ⟨found, trivial, rfl, rfl⟩)
  | false =>
    refine .inr ⟨?_, returns_literal.mpr (.inl ⟨found, rfl, rfl⟩)⟩
    rintro word rfl there
    rw [stands.mpr there] at found
    cases found

theorem lexesRow_nil : LexesRow base [] 1 := by
  intro start ahead
  refine .inl ⟨[], ⟨rfl, List.nil_prefix, ?_⟩, returns_allMatch_nil.mpr ⟨rfl, rfl⟩⟩
  rintro other rfl _
  exact Nat.le_refl _

/-- A row may be extended by what it cannot swallow. -/
theorem lexesRow_snoc {matchers : List Matcher} (inside : base.Inside)
    (row : LexesRow base matchers first) (last : Lexes base matcher second)
    (before : Before first second) : LexesRow base (matchers ++ [matcher]) (first * second) := by
  intro start ahead
  rw [allMatch_append]
  rcases row start ahead with ⟨word, longest, ran⟩ | ⟨absent, stop, ran⟩
  · obtain ⟨further, left⟩ := rest_behind inside ahead longest.stands
    rcases last _ further with ⟨next, later, matched⟩ | ⟨absent, missed⟩
    · rw [left] at later
      refine .inl ⟨word ++ next, longest_mul longest before later, ?_⟩
      rw [List.length_append, ← Nat.add_assoc]
      refine returns_bind.mpr ⟨true, _, ran, returns_allMatch_cons.mpr (.inr ⟨_, _, matched, ?_⟩)⟩
      exact returns_allMatch_nil.mpr ⟨rfl, rfl⟩
    · rw [left] at absent
      refine .inr ⟨absent_of_longest longest before absent, start + word.length, ?_⟩
      exact returns_bind.mpr ⟨true, _, ran, returns_allMatch_cons.mpr (.inl ⟨missed, rfl⟩)⟩
  · refine .inr ⟨absent_mul absent second, stop, ?_⟩
    exact returns_bind.mpr ⟨false, stop, ran, returns_pure.mpr ⟨rfl, rfl⟩⟩

theorem lexes_seq {matchers : List Matcher} (inside : base.Inside)
    (row : LexesRow base matchers language) : Lexes base (seq matchers .silent) language := by
  intro start ahead
  rcases row start ahead with ⟨word, longest, ran⟩ | ⟨absent, stop, ran⟩
  · refine .inl ⟨word, longest, returns_seq.mpr ⟨true, _, ran, .inr ⟨rfl, trivial, rfl, rfl⟩⟩⟩
  · have valid := (Cursor.inside_moveTo inside ahead).1
    exact .inr ⟨absent, returns_seq.mpr ⟨false, _, ran, .inl ⟨rfl, valid, rfl, rfl⟩⟩⟩

theorem lexes_pair (inside : base.Inside) (one : Lexes base matcher first)
    (two : Lexes base other second) (before : Before first second) :
    Lexes base (seq [matcher, other] .silent) (first * second) := by
  have single : LexesRow base [matcher] first :=
    one_mul first ▸ lexesRow_snoc inside lexesRow_nil one (before_of_uniform uniform_one first)
  exact lexes_seq inside (lexesRow_snoc inside single two before)

theorem lexes_times (inside : base.Inside) (one : Lexes base matcher language)
    (itself : Before language language) (count : Nat) :
    Lexes base (times matcher count .silent) (language ^ count) := by
  rw [times_eq_seq]
  apply lexes_seq inside
  induction count with
  | zero => exact lexesRow_nil
  | succ count ih =>
    rw [List.replicate_succ', pow_succ]
    exact lexesRow_snoc inside ih one (before_pow itself count)

theorem lexes_optional (inside : base.Inside) {test : Char → Bool}
    (right : ∀ unit, test unit = true ↔ kind unit) :
    Lexes base (Matcher.optional (unit (.ofBool test) .silent) .silent) (1 + oneOf kind) := by
  intro start ahead
  rcases lexes_unit inside right start ahead with ⟨word, longest, matched⟩ | ⟨absent, missed⟩
  · refine .inl ⟨word, ⟨.inr longest.member, longest.stands, ?_⟩, ?_⟩
    · rintro other (rfl | member) stands
      · exact Nat.zero_le _
      · exact longest.most other member stands
    · exact returns_optional.mpr ⟨trivial, _, matched, rfl⟩
  · refine .inl ⟨[], ⟨.inl rfl, List.nil_prefix, ?_⟩, ?_⟩
    · rintro other (rfl | member) stands
      · exact Nat.le_refl _
      · exact (absent other member stands).elim
    · exact returns_optional.mpr ⟨trivial, _, missed, rfl⟩

/-- A unit that stands at a position, and what is behind it. -/
theorem takeWhile_of_longest {test : Char → Bool}
    (longest : Longest (oneOf fun unit => test unit = true) input word) :
    word.length = 1 ∧
      input.takeWhile test = word ++ (input.drop word.length).takeWhile test := by
  obtain ⟨unit, accepted, rfl⟩ := longest.member
  obtain ⟨others, rfl⟩ := longest.stands
  exact ⟨rfl, List.takeWhile_cons_of_pos accepted⟩

theorem takeWhile_of_absent {test : Char → Bool}
    (absent : Absent (oneOf fun unit => test unit = true) input) : input.takeWhile test = [] := by
  cases input with
  | nil => rfl
  | cons unit others =>
    apply List.takeWhile_cons_of_neg
    intro accepted
    exact absent [unit] ⟨unit, accepted, rfl⟩ ⟨others, rfl⟩

/-- Rounds of one unit take all the units of its kind that stand in a row. -/
theorem rounds_of_unit (inside : base.Inside) (test : Char → Bool) (label : String)
    (ahead : base.Ahead start) (enough : (base.moveTo start).remaining ≤ bound) :
    (rounds label (unit (.ofBool test) .silent) bound).Returns (base.moveTo start) ()
      (start + ((base.moveTo start).rest.takeWhile test).length) := by
  -- Each round takes one of the units that remain, so the bound lasts.
  induction bound generalizing start with
  | zero =>
    have drained : (base.moveTo start).remaining = 0 := Nat.le_zero.mp enough
    refine returns_rounds_zero.mpr ⟨drained, ?_⟩
    rw [(Cursor.remaining_eq_zero_iff (Cursor.inside_moveTo inside ahead)).mp drained]
    rfl
  | succ bound ih =>
    rcases lexes_unit inside (fun unit => Iff.rfl) start ahead with
      ⟨word, longest, matched⟩ | ⟨absent, missed⟩
    · obtain ⟨single, taken⟩ := takeWhile_of_longest longest
      obtain ⟨further, left⟩ := rest_behind inside ahead longest.stands
      rw [single] at matched further left taken
      have some_left : (base.moveTo start).remaining ≠ 0 := by
        have room := further.2
        simp only [Cursor.remaining_moveTo]
        omega
      have measured : (⟨(start : Nat), (start + 1 : Nat)⟩ : Span).length? = .ok 1 := by
        rw [Contract.length?_forward (Nat.le_add_right start 1), Nat.add_sub_cancel_left]
        rfl
      have later := ih further (by simp only [Cursor.remaining_moveTo] at enough ⊢; omega)
      rw [left] at later
      rw [taken, List.length_append, single, ← Nat.add_assoc]
      refine returns_rounds_succ.mpr (.inr ⟨start + 1, ?_, later⟩)
      exact returns_round_true.mpr ⟨some_left, _, 1, matched, measured, Nat.one_ne_zero⟩
    · rw [takeWhile_of_absent absent]
      refine returns_rounds_succ.mpr (.inl (returns_round_false.mpr ?_))
      by_cases drained : (base.moveTo start).remaining = 0
      · exact .inl ⟨drained, rfl⟩
      · exact .inr ⟨drained, .inl missed⟩

theorem lexes_plus (inside : base.Inside) {test : Char → Bool}
    (right : ∀ unit, test unit = true ↔ kind unit) (label : String) :
    Lexes base (plus label (unit (.ofBool test) .silent) .silent) (someOf (oneOf kind)) := by
  obtain rfl : kind = fun unit => test unit = true := funext fun unit => propext (right unit).symm
  intro start ahead
  rcases lexes_unit inside right start ahead with ⟨word, longest, matched⟩ | ⟨absent, missed⟩
  · obtain ⟨single, taken⟩ := takeWhile_of_longest longest
    obtain ⟨further, left⟩ := rest_behind inside ahead longest.stands
    have enough : (base.moveTo (start + word.length)).remaining ≤ base.limit - base.origin := by
      have low := inside.1.1
      have behind := further.1
      simp only [Cursor.remaining_moveTo]
      omega
    have repeated := rounds_of_unit inside test label further enough
    rw [left, Nat.add_assoc, ← List.length_append, ← taken] at repeated
    refine .inl ⟨_, longest_takeWhile right ?_, ?_⟩
    · rw [taken, ← List.length_pos_iff, List.length_append]
      omega
    · exact returns_plus.mpr (.inr ⟨_, _, matched, returns_exhaust.mpr repeated, trivial, rfl⟩)
  · exact .inr ⟨absent_mul absent _, returns_plus.mpr (.inl ⟨missed, rfl⟩)⟩

/-- Digits come to an end before a point. -/
theorem digits_before_point (second : Language Char) :
    Before Recipe.digitsLanguage (oneOf (· = '.') * second) := by
  apply before_of_shuns
  apply shuns_mul
  apply shuns_oneOf
  rintro unit rfl
  decide

/-- Digits come to an end before a line break. -/
theorem digits_before_guard : Before Recipe.digitsLanguage Recipe.guardLanguage := by
  apply before_of_shuns
  apply shuns_mul
  apply shuns_oneOf
  rintro unit (rfl | rfl)
  · decide
  · decide

/-- A sign is not taken away from digits. -/
theorem sign_before_digits :
    Before (1 + oneOf fun unit => unit = '+' ∨ unit = '-') Recipe.digitsLanguage := by
  apply optional_before_of_shuns
  apply shuns_mul
  apply shuns_oneOf
  rintro unit digit (rfl | rfl)
  · revert digit
    decide
  · revert digit
    decide

/-- A point and the digits behind it. -/
def group : Language Char :=
  oneOf (· = '.') * Recipe.digitsLanguage

theorem group_before_group : Before group group :=
  before_mul (before_of_uniform (uniform_oneOf _) _) (digits_before_point _)

theorem group_before_guard : Before group Recipe.guardLanguage :=
  before_mul (before_of_uniform (uniform_oneOf _) _) digits_before_guard

theorem digits_before_groups (count : Nat) :
    Before Recipe.digitsLanguage (group ^ (count + 1)) := by
  rw [pow_succ', group, mul_assoc]
  exact digits_before_point _

theorem addressLanguage_eq : Recipe.addressLanguage = Recipe.digitsLanguage * group ^ 3 := by
  simp only [Recipe.addressLanguage, group, pow_succ, pow_zero, one_mul, mul_assoc]

theorem address_before_guard : Before Recipe.addressLanguage Recipe.guardLanguage := by
  rw [addressLanguage_eq]
  refine before_mul (digits_before_groups 2) ?_
  rw [pow_succ]
  exact before_mul (before_pow group_before_group 2) group_before_guard

section

variable (call : κ → Matcher)

theorem lexes_character (inside : base.Inside) (wanted : Char) :
    Lexes base ((Pattern.character wanted .silent : Pattern κ).run call) (oneOf (· = wanted)) :=
  lexes_unit inside fun _ => beq_iff_eq

theorem lexes_digits (inside : base.Inside) :
    Lexes base ((Recipe.digits : Pattern κ).run call) Recipe.digitsLanguage := by
  apply lexes_plus inside
  simp [UnitClass.accepts, UnitClass.between]

theorem lexes_guard (inside : base.Inside) :
    Lexes base ((Recipe.guard : Pattern κ).run call) Recipe.guardLanguage := by
  rw [Recipe.guardLanguage, ← pow_two]
  apply lexes_times inside (lexes_unit inside _) (before_of_uniform (uniform_oneOf _) _)
  simp [UnitClass.accepts]

theorem lexes_address (inside : base.Inside) :
    Lexes base ((Recipe.address .silent : Pattern κ).run call) Recipe.addressLanguage := by
  have one : Lexes base ((Recipe.both (.character '.' .silent) Recipe.digits : Pattern κ).run call)
      group :=
    lexes_pair inside (lexes_character call inside '.') (lexes_digits call inside)
      (before_of_uniform (uniform_oneOf _) _)
  rw [addressLanguage_eq]
  exact lexes_pair inside (lexes_digits call inside)
    (lexes_times inside one group_before_group 3) (digits_before_groups 2)

/-- Every recipe matches the longest word of its language. -/
theorem lexes_recipe (inside : base.Inside) (recipe : Recipe) :
    Lexes base ((recipe.pattern .silent : Pattern κ).run call) recipe.language := by
  cases recipe with
  | quotedString =>
    have body : Lexes base ((Pattern.plus (.noneOf ['\x22'] .silent) .silent : Pattern κ).run call)
        (someOf (oneOf (· ≠ '\x22'))) := by
      apply lexes_plus inside
      simp
    have closed : Shuns (oneOf (· = '\x22')) (· ≠ '\x22') :=
      shuns_oneOf fun unit same different => different same
    have quote := lexes_character call inside '\x22'
    have opened := before_of_uniform (uniform_oneOf (· = '\x22')) (someOf (oneOf (· ≠ '\x22')))
    exact lexes_pair inside (lexes_pair inside quote body opened) quote
      (before_mul opened (before_of_shuns closed))
  | dottedAddress => exact lexes_address call inside
  | addressReport =>
    have guard := lexes_guard call inside
    have lead : Uniform (Recipe.guardLanguage * {"+CGPADDR: ".toList}) (1 + 1 + 10) :=
      uniform_mul (uniform_mul (uniform_oneOf _) (uniform_oneOf _)) (uniform_text _)
    have announced := lexes_pair inside guard (lexes_literal inside "+CGPADDR: ".toList)
      (before_of_uniform (uniform_mul (uniform_oneOf _) (uniform_oneOf _)) _)
    have before := before_of_uniform lead Recipe.addressLanguage
    exact lexes_pair inside (lexes_pair inside announced (lexes_address call inside) before) guard
      (before_mul before address_before_guard)
  | signedInteger =>
    refine lexes_pair inside (lexes_optional inside ?_) (lexes_digits call inside)
      sign_before_digits
    simp
  | hexNumber =>
    refine lexes_pair inside (lexes_literal inside ['0', 'x']) (lexes_plus inside ?_ _)
      (before_of_uniform (uniform_text _) _)
    simp [UnitClass.accepts, UnitClass.between, or_assoc]

/-- Nobody but the given observer listens to a recipe. -/
theorem retell_silent (observer : Observer) (recipe : Recipe) :
    (recipe.pattern observer : Pattern κ).retell (fun _ => .silent) = recipe.pattern .silent := by
  cases recipe <;> rfl

/-- An observer that lets the run go on does not change what is matched. -/
theorem returns_quiet (recipe : Recipe) (quiet : observer.Quiet) (cursor : Cursor) :
    ((recipe.pattern observer : Pattern κ).run call).Returns cursor result stop ↔
      ((recipe.pattern .silent : Pattern κ).run call).Returns cursor result stop := by
  have met : (recipe.pattern observer : Pattern κ).Meets (.ofObservers Observer.Quiet) :=
    Recipe.pattern_meets (fun _ => trivial) trivial quiet recipe
  have silenced : (recipe.pattern observer : Pattern κ).heardBy Interference.nobody =
      recipe.pattern .silent := by
    rw [← retell_silent observer recipe, Pattern.heardBy]
    congr 1
    funext observer
    cases observer <;> rfl
  have same := Interference.run_heardBy call met Interference.nobody cursor
  rw [silenced] at same
  simp only [Returns, same.outcome, same.position]

end

/-- A match of the matcher takes so many units. -/
def Consumes (size : Nat) (matcher : Matcher) : Prop :=
  ∀ ⦃cursor span stop⦄, matcher.Returns cursor (some span) stop → stop = cursor.position + size

theorem consumes_unit (predicate : Predicate) (observer : Observer) :
    Consumes 1 (unit predicate observer) := by
  intro cursor span stop matched
  rcases returns_unit.mp matched with ⟨_, missed, _⟩ | ⟨_, _, _, ⟨_, missed, _⟩ | ⟨_, _, _, rfl⟩⟩
  · cases missed
  · cases missed
  · rfl

theorem consumes_literal (text : List Char) (observer : Observer) :
    Consumes text.length (literal text observer) := by
  intro cursor span stop matched
  rcases returns_literal.mp matched with ⟨_, missed, _⟩ | ⟨_, _, _, rfl⟩
  · cases missed
  · rfl

theorem consumes_pair (one : Consumes size matcher) (two : Consumes size' other) :
    Consumes (size + size') (seq [matcher, other] .silent) := by
  intro cursor span stop matched
  obtain ⟨_, middle, _, first, later, _⟩ := pair_matched matched
  rw [two later, Cursor.moveTo_position, one first, Nat.add_assoc]

section

variable {before value after : Matcher}

/-- A value that comes after something of fixed size is announced where it ends. -/
theorem led_matched (silent : before.Untold) (lead : Consumes size before)
    (announces : Announces observer value)
    (matched : (seq [before, value] .silent).Returns cursor (some span) stop) :
    (seq [before, value] .silent).told cursor =
      observer.notes (cursor.moveTo stop) ⟨(cursor.position + size : Nat), stop⟩ := by
  obtain ⟨_, middle, _, first, later, told⟩ := pair_matched matched
  obtain ⟨rfl, announced⟩ := announces.matched later
  rw [told, told_of_untold silent, announced, lead first]
  rfl

/-- A framed value is announced before the end of the frame. -/
theorem framed_matched (silent : before.Untold) (lead : Consumes size before)
    (announces : Announces observer value) (quiet : after.Untold) (tail : Consumes size' after)
    (matched : (seq [seq [before, value] .silent, after] .silent).Returns cursor (some span) stop) :
    (seq [seq [before, value] .silent, after] .silent).told cursor =
      observer.notes (cursor.moveTo (stop - size'))
        ⟨(cursor.position + size : Nat), (stop - size' : Nat)⟩ := by
  obtain ⟨_, middle, _, first, later, told⟩ := pair_matched matched
  have ended : stop - size' = middle := by
    rw [tail later, Cursor.moveTo_position, Nat.add_sub_cancel]
  rw [told, told_of_untold quiet, led_matched silent lead announces first, ended, List.append_nil]

end

/-- When a recipe has matched, its observer has been told the value, once. -/
theorem told_value (call : κ → Matcher) (recipe : Recipe)
    (matched : ((recipe.pattern observer).run call).Returns cursor (some span) stop) :
    ((recipe.pattern observer).run call).told cursor =
      observer.notes (cursor.moveTo (stop - recipe.margins.2))
        ⟨(cursor.position + recipe.margins.1 : Nat), (stop - recipe.margins.2 : Nat)⟩ := by
  have announces := value_announces call observer recipe
  cases recipe with
  | quotedString =>
    have framed : (Recipe.quotedString.frame : Option (Pattern κ × Pattern κ)) = some _ := rfl
    obtain ⟨silent, quiet⟩ := frame_untold call framed
    exact framed_matched silent (consumes_unit _ _) announces quiet (consumes_unit _ _) matched
  | dottedAddress =>
    obtain ⟨rfl, told⟩ := announces.matched matched
    exact told
  | addressReport =>
    have framed : (Recipe.addressReport.frame : Option (Pattern κ × Pattern κ)) = some _ := rfl
    obtain ⟨silent, quiet⟩ := frame_untold call framed
    have guard : Consumes 2 ((Recipe.guard : Pattern κ).run call) := by
      rw [Recipe.guard, Pattern.run, times_eq_seq]
      exact consumes_pair (consumes_unit _ _) (consumes_unit _ _)
    have lead := consumes_pair guard (consumes_literal "+CGPADDR: ".toList .silent)
    exact framed_matched silent lead announces quiet guard matched
  | signedInteger =>
    obtain ⟨rfl, told⟩ := announces.matched matched
    exact told
  | hexNumber =>
    refine led_matched ?_ (consumes_literal _ _) announces matched
    exact untold_run (.literal fun _ => Interruption.untold_of_silent fun _ => rfl)

/-- An observer that stops the run does so as soon as it is told the value. If the recipe would
match without it, it stops the run; otherwise it may be that it is not told anything. -/
theorem missed_or_raised (call : κ → Matcher) (recipe : Recipe) (id message : String)
    (ran : ((recipe.pattern .silent).run call).Returns cursor result stop) :
    (result = none ∧
      ((recipe.pattern (.interrupt id message)).run call).Returns cursor none stop) ∨
    (((recipe.pattern (.interrupt id message)).run call).run cursor).outcome =
      .error (.raised message) := by
  have quiet : (Observer.record id).Quiet := trivial
  have logged := (returns_quiet call recipe quiet cursor).mpr ran
  have met : (recipe.pattern (.record id)).Meets
      (Interruption.nodes (fun _ => some message) cursor call) :=
    Recipe.pattern_meets (fun _ => trivial) (fun _ _ same => nomatch same)
      (fun _ _ same => nomatch same) recipe
  have chosen : Interruption.raising (fun name => name) (fun _ => some message)
      (recipe.pattern (.record id) : Pattern κ) = recipe.pattern (.interrupt id message) := by
    cases recipe <;> rfl
  have cut := Interruption.run_raising met (fun name => name) cursor
  rw [chosen] at cut
  generalize ended : ((recipe.pattern (.interrupt id message)).run call).run cursor = run at cut
  cases cut with
  | whole unheard =>
    cases result with
    | none =>
      refine .inl ⟨rfl, ?_⟩
      simp only [Returns, ended]
      exact logged
    | some span =>
      -- The match was announced, so the run was not a whole one.
      have announced : ∃ span text here, .observed (.log id) span text here ∈
          ((recipe.pattern (.record id)).run call).told cursor := by
        rw [told_value call recipe logged]
        exact ⟨_, _, _, List.mem_singleton_self _⟩
      obtain ⟨_, _, _, member⟩ := announced
      cases unheard _ (List.mem_filter.mp member).1
  | cut before after happened unheard told same =>
    cases same
    exact .inr rfl

/-- A recipe misses exactly when the remaining units start with no word of its language; otherwise
it matches the longest word of its language that they start with. When it has matched, its observer
has been told the value, once and nothing else: the body between the quotes, the address, the
address inside the report, the integer with its sign, the digits behind the mark. All this holds
unless the observer stops the run, and nothing else can stop it. -/
theorem recipe_matches_longest (call : κ → Matcher) (recipe : Recipe) (observer : Observer)
    (cursor : Cursor) (inside : cursor.Inside) :
    (observer.Quiet →
      (((recipe.pattern observer).run call).Returns cursor none cursor.position ↔
        Absent recipe.language cursor.rest) ∧
      (¬ Absent recipe.language cursor.rest → ∃ word,
        Longest recipe.language cursor.rest word ∧
        ((recipe.pattern observer).run call).Returns cursor
          (some ⟨cursor.position, (cursor.position + word.length : Nat)⟩)
          (cursor.position + word.length))) ∧
    (∀ span stop, ((recipe.pattern observer).run call).Returns cursor (some span) stop →
      ((recipe.pattern observer).run call).told cursor =
        observer.notes (cursor.moveTo (stop - recipe.margins.2))
          ⟨(cursor.position + recipe.margins.1 : Nat), (stop - recipe.margins.2 : Nat)⟩) ∧
    (∀ id message, observer = .interrupt id message →
      (Absent recipe.language cursor.rest ∧
        ((recipe.pattern observer).run call).Returns cursor none cursor.position) ∨
      (((recipe.pattern observer).run call).run cursor).outcome = .error (.raised message)) := by
  have lexes := lexes_recipe call inside recipe cursor.position (Cursor.ahead_self inside.1)
  refine ⟨fun quiet => ?_, fun span stop matched => told_value call recipe matched, ?_⟩
  · simp only [returns_quiet call recipe quiet]
    rcases lexes with ⟨word, longest, matched⟩ | ⟨absent, missed⟩
    · have present : ¬ Absent recipe.language cursor.rest := fun absent =>
        absent word longest.member longest.stands
      refine ⟨⟨fun missed => ?_, fun absent => (present absent).elim⟩,
        fun _ => ⟨word, longest, matched⟩⟩
      cases (returns_unique missed matched).1
    · exact ⟨⟨fun _ => absent, fun _ => missed⟩, fun present => (present absent).elim⟩
  · rintro id message rfl
    rcases lexes with ⟨word, longest, matched⟩ | ⟨absent, missed⟩
    · rcases missed_or_raised call recipe id message matched with ⟨impossible, _⟩ | stopped
      · cases impossible
      · exact .inr stopped
    · rcases missed_or_raised call recipe id message missed with ⟨_, also⟩ | stopped
      · exact .inl ⟨absent, also⟩
      · exact .inr stopped

/-- Octets that go on after an address as if it had five groups. -/
def fiveGroups : Cursor :=
  ⟨.octets .fixed [61, 49, 48, 46, 48, 46, 55, 46, 49, 50, 46, 51], 1, 1, 12⟩

/-- Four of the five groups are the longest address, and the observer is told them once. -/
theorem fiveGroups_address :
    fiveGroups.Inside ∧ fiveGroups.rest = "10.0.7.12.3".toList ∧
    Longest Recipe.dottedAddress.language fiveGroups.rest "10.0.7.12".toList ∧
    ((Recipe.dottedAddress.pattern (.record "a") : Pattern Empty).run Empty.elim).told fiveGroups =
      [.observed (.log "a") ⟨1, 10⟩ "10.0.7.12".toList 10] := by
  have inside : fiveGroups.Inside := by decide
  have matched : ((Recipe.dottedAddress.pattern (.record "a") : Pattern Empty).run
      Empty.elim).Returns fiveGroups (some ⟨1, 10⟩) 10 := ⟨rfl, rfl⟩
  obtain ⟨accepts, tells, _⟩ :=
    recipe_matches_longest Empty.elim .dottedAddress (.record "a") fiveGroups inside
  obtain ⟨misses, found⟩ := accepts trivial
  refine ⟨inside, rfl, ?_, tells _ _ matched⟩
  have present : ¬ Absent Recipe.dottedAddress.language fiveGroups.rest := by
    intro absent
    cases (returns_unique (misses.mpr absent) matched).1
  obtain ⟨word, longest, also⟩ := found present
  have size : 1 + word.length = 10 := (returns_unique also matched).2
  have nine : word.length = 9 := by omega
  have same : word = "10.0.7.12".toList := by
    rw [List.prefix_iff_eq_take.mp longest.stands, nine]
    rfl
  exact same ▸ longest

end RecipeLanguages

end SpanLexer
