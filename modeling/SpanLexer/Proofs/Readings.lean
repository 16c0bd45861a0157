import SpanLexer.Proofs.Building
import SpanLexer.Proofs.RecipeLanguages

/-!
The ways to read what remains.

What remains of a window can be asked for unit by unit, read as a whole, or compared with a literal,
and each of these goes its own way to what is stored: octets are decoded one by one or all together,
or the literal is encoded and they are not decoded at all. All of them nevertheless speak of one
list of units, as long as the window lies in its buffer.

A literal is therefore nothing but a row of units. Matched as a whole or unit by unit, it is the one
word of the same language, and it does not matter whether it was given as characters or as octets.
-/
namespace SpanLexer.Readings
open Scan Matcher Words RecipeLanguages

variable {base : Cursor}

/-- What is found at each index, put together, is the list it was found in. -/
private theorem mapM_range_of_getElem? {read : Nat → Except Fault Char} {units : List Char}
    (each : ∀ index unit, units[index]? = some unit → read index = .ok unit) :
    (List.range units.length).mapM read = .ok units := by
  induction units generalizing read with
  | nil => rfl
  | cons unit others ih =>
    have first := each 0 unit rfl
    have later : (List.range others.length).mapM (read ∘ Nat.succ) = .ok others :=
      ih fun index other found => each (index + 1) other found
    rw [List.length_cons, List.range_succ_eq_map, List.mapM_cons, first, List.mapM_map, later]
    rfl

/-- All units that can be asked for make up what remains. -/
theorem mapM_unitAt (inside : base.Inside) :
    (List.range base.remaining).mapM (fun index : Nat => base.unitAt index) = .ok base.rest := by
  rw [← Cursor.length_rest inside]
  exact mapM_range_of_getElem? fun _ _ found => (Cursor.unitAt_eq_ok_iff inside).mpr found

/-- A literal stands at the cursor when it is not longer than what remains and agrees with it unit
by unit. -/
theorem startsWith_iff_unitAt (inside : base.Inside) (literal : List Char) :
    base.startsWith literal = true ↔
      literal.length ≤ base.remaining ∧
        ∀ (index : Nat) (bound : index < literal.length),
          base.unitAt index = .ok literal[index] := by
  rw [Cursor.startsWith_iff inside, ← Cursor.length_rest inside]
  simp only [Cursor.unitAt_eq_ok_iff inside]
  constructor
  · intro stands
    exact ⟨stands.length_le, List.prefix_iff_getElem?.mp stands⟩
  · rintro ⟨_, agrees⟩
    exact List.prefix_iff_getElem?.mpr agrees

/-- The last unit of a word is a word behind the others. -/
private theorem text_snoc (text : List Char) (wanted : Char) :
    ({text ++ [wanted]} : Language Char) = {text} * oneOf (· = wanted) := by
  ext word
  rw [Language.mem_mul]
  constructor
  · rintro rfl
    exact ⟨text, rfl, [wanted], ⟨wanted, rfl, rfl⟩, rfl⟩
  · rintro ⟨_, rfl, _, ⟨_, rfl, rfl⟩, rfl⟩
    rfl

/-- The characters of a text in a row match that text and nothing else. -/
theorem lexesRow_characters (call : κ → Matcher) (inside : base.Inside) (text : List Char) :
    LexesRow base (text.map fun wanted => (Pattern.character wanted .silent : Pattern κ).run call)
      {text} := by
  -- A row is judged from its end, where the last part is matched behind all the others.
  induction text using List.reverseRecOn with
  | nil => exact lexesRow_nil
  | append_singleton text wanted ih =>
    rw [text_snoc, List.map_append]
    exact lexesRow_snoc inside ih (lexes_character call inside wanted)
      (before_of_uniform (uniform_text text) _)

/-- Matchers of the same language match alike. -/
theorem lexes_agree {language : Language Char} (one : Lexes base matcher language)
    (two : Lexes base other language) (ahead : base.Ahead start) :
    ∃ result stop, matcher.Returns (base.moveTo start) result stop ∧
      other.Returns (base.moveTo start) result stop := by
  rcases one start ahead with ⟨word, longest, matched⟩ | ⟨absent, missed⟩
  · rcases two start ahead with ⟨word', longest', matched'⟩ | ⟨absent, _⟩
    · -- The two words are each the longest, and only their length shows in what is returned.
      have same : word.length = word'.length :=
        Nat.le_antisymm (longest'.most word longest.member longest.stands)
          (longest.most word' longest'.member longest'.stands)
      rw [← same] at matched'
      exact ⟨_, _, matched, matched'⟩
    · exact (absent word longest.member longest.stands).elim
  · rcases two start ahead with ⟨word', longest', _⟩ | ⟨_, missed'⟩
    · exact (absent word' longest'.member longest'.stands).elim
    · exact ⟨_, _, missed, missed'⟩

theorem lexes_row (call : κ → Matcher) (inside : base.Inside) (text : List Char) :
    Lexes base ((Pattern.seq (text.map (.character · .silent)) .silent : Pattern κ).run call)
      {text} := by
  rw [Pattern.run, Pattern.runEach_eq_map, List.map_map]
  exact lexes_seq inside (lexesRow_characters call inside text)

/-- The expressions that are made from a text. -/
inductive MadeFromText : (TextArgument → Observer.Offer → Expr) → Prop where
  | literal : MadeFromText .literal
  | character : MadeFromText .character
  | anyOf : MadeFromText .anyOf
  | noneOf : MadeFromText .noneOf

/-- Of a text, nothing but its characters matters to what is built. -/
theorem build_eq_of_characters (made : MadeFromText make) {argument other : TextArgument}
    (same : argument.characters = other.characters) (offered : Observer.Offer)
    (library : Library) :
    (make argument offered).build library = (make other offered).build library := by
  cases made <;> simp only [Expr.build, same]

/-- A text that is not empty can be built to a literal. -/
theorem literal_yields {argument : TextArgument} (reads : argument.Reads text) (full : text ≠ [])
    (library : Library) :
    ((Expr.literal argument .absent).buildPattern library).Yields (.literal text .silent) :=
  Expr.yields_buildPattern.mpr ⟨_, Expr.yields_of_makes (.literal reads full rfl), rfl⟩

/-- Texts of one character each can be built to a row. -/
theorem row_yields {pieces : List TextArgument}
    (reads : List.Forall₂ (fun piece unit => piece.Reads [unit]) pieces text) (full : text ≠ [])
    (library : Library) :
    ((Expr.seq (pieces.map (.character · .absent)) .absent).buildPattern library).Yields
      (.seq (text.map (.character · .silent)) .silent) := by
  refine Expr.yields_buildPattern.mpr ⟨_, Expr.yields_of_makes (.seq ?_ ?_ rfl), rfl⟩
  · rintro empty
    rw [List.map_eq_nil_iff.mp empty] at reads
    cases reads
    exact full rfl
  · rw [List.forall₂_map_left_iff, List.forall₂_map_right_iff]
    refine reads.imp fun piece unit read => ?_
    exact Expr.yields_buildPattern.mpr ⟨_, Expr.yields_of_makes (.character read rfl), rfl⟩

/-- Let a window lie in its buffer, whatever that stores. The units that can be asked for, one after
the other, are what remains as a whole; and a literal stands at the cursor exactly when it is not
longer than what remains and has the same units, also when it holds characters that no octet stands
for, or when the buffer goes on behind the window as the literal does.

A literal and the sequence of its characters, each given in any way that a text can be given, can
therefore both be built, and they return the same match or miss at the same position. Whatever else
is made from a text, it is the same for octets and for the characters they read as. -/
theorem remaining_units_read_alike (cursor : Cursor) (inside : cursor.Inside) :
    (List.range cursor.remaining).mapM (fun index : Nat => cursor.unitAt index) = .ok cursor.rest ∧
    (∀ literal : List Char, cursor.startsWith literal = true ↔
      literal.length ≤ cursor.remaining ∧
        ∀ (index : Nat) (bound : index < literal.length),
          cursor.unitAt index = .ok literal[index]) ∧
    (∀ (library : Library) (literal : List Char) (argument : TextArgument)
        (pieces : List TextArgument), literal ≠ [] → argument.Reads literal →
      List.Forall₂ (fun piece unit => piece.Reads [unit]) pieces literal →
      ∃ word row result stop,
        ((Expr.literal argument .absent).buildPattern library).Yields word ∧
        ((Expr.seq (pieces.map (.character · .absent)) .absent).buildPattern library).Yields row ∧
        (library.run word).Returns cursor result stop ∧
        (library.run row).Returns cursor result stop) ∧
    ∀ (library : Library) (make : TextArgument → Observer.Offer → Expr), MadeFromText make →
      ∀ (contents : List UInt8) (offered : Observer.Offer),
        (make (.octets contents) offered).build library =
          (make (.text (contents.map Latin1.decode)) offered).build library := by
  refine ⟨mapM_unitAt inside, startsWith_iff_unitAt inside, ?_, ?_⟩
  · intro library literal argument pieces full reads readEach
    have here := Cursor.ahead_self inside.1
    obtain ⟨result, stop, whole, inTurn⟩ :=
      lexes_agree (lexes_literal inside literal) (lexes_row (library.call _) inside literal) here
    exact ⟨_, _, result, stop, literal_yields reads full library, row_yields readEach full library,
      whole, inTurn⟩
  · intro library make made contents offered
    have same : (TextArgument.octets contents).characters =
        (TextArgument.text (contents.map Latin1.decode)).characters := rfl
    exact build_eq_of_characters made same offered library

/-- Every other octet of nine, seen through a view. -/
def everyOther : Source.Offer :=
  .view [98, 0, 97, 0, 233, 0, 59, 0, 99] none none (some 2)

/-- The second and the third of the octets that the view shows. -/
def everyOtherWindow : Cursor :=
  ⟨.octets .view [98, 97, 233, 59, 99], 0, 1, 3⟩

/-- Two units remain. The literal of both stands there and is matched like the row of the two, one
of which is given as an octet. A literal that goes on as the view does behind the window, and one
that holds a character without an octet, do not stand there. -/
theorem everyOtherWindow_reads_alike :
    (∃ source, everyOther.make = .ok source ∧ source.buffer = .ok everyOtherWindow.buffer) ∧
    everyOtherWindow.Inside ∧
    (List.range 2).mapM (fun index : Nat => everyOtherWindow.unitAt index) = .ok ['a', 'é'] ∧
    everyOtherWindow.startsWith ['a', 'é'] = true ∧
    everyOtherWindow.startsWith ['a', 'é', ';'] = false ∧
    everyOtherWindow.startsWith ['a', 'Ω'] = false ∧
    ∃ word row,
      ((Expr.literal (.octets [97, 233]) .absent).buildPattern []).Yields word ∧
      ((Expr.seq [.character (.text ['a']) .absent, .character (.octets [233]) .absent]
        .absent).buildPattern []).Yields row ∧
      (Library.run [] word).Returns everyOtherWindow (some ⟨1, 3⟩) 3 ∧
      (Library.run [] row).Returns everyOtherWindow (some ⟨1, 3⟩) 3 := by
  have inside : everyOtherWindow.Inside := by decide
  obtain ⟨units, stands, rows, _⟩ := remaining_units_read_alike everyOtherWindow inside
  have both : everyOtherWindow.startsWith ['a', 'é'] = true := by
    refine (stands _).mpr ⟨by decide, fun index bound => ?_⟩
    have small : index = 0 ∨ index = 1 := by
      simp only [List.length_cons, List.length_nil] at bound
      omega
    rcases small with rfl | rfl <;> rfl
  have behind : everyOtherWindow.startsWith ['a', 'é', ';'] = false := by
    refine Bool.eq_false_iff.mpr fun holds => ?_
    exact absurd ((stands _).mp holds).1 (by decide)
  obtain ⟨word, row, result, stop, built, builtRow, whole, inTurn⟩ :=
    rows [] ['a', 'é'] (.octets [97, 233]) [.text ['a'], .octets [233]] (by simp)
      (.octets [97, 233]) (.cons (.text ['a']) (.cons (.octets [233]) .nil))
  have matched : (Library.run [] word).Returns everyOtherWindow (some ⟨1, 3⟩) 3 := by
    cases built
    exact ⟨rfl, rfl⟩
  obtain ⟨rfl, rfl⟩ := returns_unique whole matched
  exact ⟨⟨_, rfl, rfl⟩, inside, units, both, behind, by decide, word, row, built, builtRow, whole,
    inTurn⟩

end SpanLexer.Readings
