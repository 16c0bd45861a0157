import SpanLexer.Cursor

/-!
What a cursor shows of its buffer, in terms of the units that remain.

While a window lies in its buffer, everything a scan can ask of a cursor is a question to the list
`rest`: how many units remain, which one is next, whether a literal stands there and what a span
of it reads. How the units are stored does not matter from here on.
-/
namespace SpanLexer.Cursor

variable {base : Cursor}

/-- The cursor can still come to the position without going back. -/
def Ahead (base : Cursor) (position : Nat) : Prop :=
  base.position ≤ position ∧ position ≤ base.limit

instance : Decidable base.Valid :=
  inferInstanceAs (Decidable (base.origin ≤ base.position ∧ base.position ≤ base.limit))

instance : Decidable base.Inside :=
  inferInstanceAs (Decidable (base.Valid ∧ base.limit ≤ base.buffer.size))

theorem ahead_self (valid : base.Valid) : base.Ahead base.position :=
  ⟨Nat.le_refl _, valid.2⟩

@[simp] theorem moveTo_limit (position : Nat) : (base.moveTo position).limit = base.limit := rfl

@[simp] theorem remaining_moveTo (position : Nat) :
    (base.moveTo position).remaining = base.limit - position := rfl

theorem inside_moveTo (inside : base.Inside) (ahead : base.Ahead stop) :
    (base.moveTo stop).Inside :=
  ⟨⟨Nat.le_trans inside.1.1 ahead.1, ahead.2⟩, inside.2⟩

private theorem clip_of_le {size stop : Nat} (bound : stop ≤ size) :
    Span.clip size (stop : Int) = stop := by
  rw [Span.clip, if_neg (by omega)]
  omega

/-- What a span within the buffer reads. -/
theorem textOf_eq_take_drop (buffer : Buffer) (startBound : start ≤ buffer.size)
    (stopBound : stop ≤ buffer.size) :
    buffer.textOf ⟨(start : Nat), (stop : Nat)⟩ =
      (buffer.units.drop start).take (stop - start) := by
  rw [Buffer.textOf_eq_slice, Span.slice, Buffer.length_units, clip_of_le startBound,
    clip_of_le stopBound]

theorem rest_eq_take_drop (inside : base.Inside) :
    base.rest = (base.buffer.units.drop base.position).take base.remaining :=
  textOf_eq_take_drop base.buffer (Nat.le_trans inside.1.2 inside.2) inside.2

theorem length_rest (inside : base.Inside) : base.rest.length = base.remaining := by
  have bound := inside.2
  rw [rest_eq_take_drop inside, List.length_take, List.length_drop, Buffer.length_units]
  simp only [remaining]
  omega

/-- Coming to a later position leaves the units from there on. -/
theorem rest_moveTo (inside : base.Inside) (ahead : base.Ahead stop) :
    (base.moveTo stop).rest = base.rest.drop (stop - base.position) := by
  have low := ahead.1
  rw [rest_eq_take_drop inside, rest_eq_take_drop (inside_moveTo inside ahead), List.drop_take,
    List.drop_drop]
  have offset : base.position + (stop - base.position) = stop := by omega
  have left : base.remaining - (stop - base.position) = base.limit - stop := by
    simp only [remaining]
    omega
  rw [offset, left]
  rfl

/-- A span that lies ahead reads the units in between, whatever the buffer holds elsewhere. -/
theorem textOf_ahead (inside : base.Inside) (first : base.Ahead start)
    (last : base.Ahead stop) :
    base.buffer.textOf ⟨(start : Nat), (stop : Nat)⟩ =
      (base.rest.drop (start - base.position)).take (stop - start) := by
  have startBound := Nat.le_trans first.2 inside.2
  have stopBound := Nat.le_trans last.2 inside.2
  have low := first.1
  have high := last.2
  rw [textOf_eq_take_drop base.buffer startBound stopBound, rest_eq_take_drop inside,
    List.drop_take, List.drop_drop, List.take_take]
  have offset : base.position + (start - base.position) = start := by omega
  have amount : min (stop - start) (base.remaining - (start - base.position)) = stop - start := by
    simp only [remaining]
    omega
  rw [offset, amount]

/-- What is consumed and what is left make up what was there. -/
theorem textOf_append_rest (inside : base.Inside) (ahead : base.Ahead stop) :
    base.buffer.textOf ⟨base.position, (stop : Nat)⟩ ++ (base.moveTo stop).rest = base.rest := by
  rw [textOf_ahead inside (ahead_self inside.1) ahead, rest_moveTo inside ahead, Nat.sub_self,
    List.drop_zero]
  exact List.take_append_drop _ _

theorem remaining_eq_zero_iff (inside : base.Inside) : base.remaining = 0 ↔ base.rest = [] := by
  rw [← length_rest inside, List.length_eq_zero_iff]

/-- To ask for a unit is to look it up in what remains. -/
theorem unitAt_eq_ok_iff (inside : base.Inside) {index : Nat} {unit : Char} :
    base.unitAt index = .ok unit ↔ base.rest[index]? = some unit := by
  rw [rest_eq_take_drop inside]
  unfold unitAt
  by_cases bound : index < base.remaining
  · have window : (0 : Int) ≤ index ∧ (index : Int) < base.remaining := ⟨by omega, by omega⟩
    rw [if_pos window, List.getElem?_take_of_lt bound, List.getElem?_drop,
      ← Buffer.unit?_eq_getElem?, Int.toNat_natCast]
    cases base.buffer.unit? (base.position + index) <;> simp
  · have outside : ¬ ((0 : Int) ≤ index ∧ (index : Int) < base.remaining) := by omega
    rw [if_neg outside, List.getElem?_take_eq_none (by omega)]
    simp

/-- The next unit is the first of those that remain. -/
theorem unitAt_zero (inside : base.Inside) (next : base.rest = unit :: others) :
    base.unitAt 0 = .ok unit := by
  have head : base.rest[0]? = some unit := by rw [next]; rfl
  exact (unitAt_eq_ok_iff inside).mpr head

/-- A unit that is found at the cursor is in the window, and it is the one the buffer holds. -/
theorem unitAt_found (found : base.unitAt 0 = .ok unit) :
    base.position < base.limit ∧ base.buffer.units[base.position]? = some unit := by
  unfold unitAt at found
  split at found
  · rename_i left
    have room : base.position < base.limit := by
      simp only [remaining] at left
      omega
    refine ⟨room, ?_⟩
    rw [← Buffer.unit?_eq_getElem?]
    split at found
    · rename_i next held
      cases found
      exact held
    · cases found
  · cases found

/-- A unit that is gone is in the window, and the buffer does not hold it. -/
theorem unitAt_gone (gone : base.unitAt 0 = .error .unitGone) :
    base.position < base.limit ∧ base.buffer.size ≤ base.position := by
  unfold unitAt at gone
  split at gone
  · rename_i left
    have room : base.position < base.limit := by
      simp only [remaining] at left
      omega
    refine ⟨room, ?_⟩
    split at gone
    · cases gone
    · rename_i missing
      rw [Buffer.unit?_eq_getElem?, List.getElem?_eq_none_iff, Buffer.length_units] at missing
      exact missing
  · cases gone

/-- While units remain, there is no other reason why the next one is not found. -/
theorem unitAt_refused (left : base.remaining ≠ 0) (refused : base.unitAt 0 = .error fault) :
    fault = .unitGone := by
  unfold unitAt at refused
  rw [if_pos ⟨by omega, by omega⟩] at refused
  split at refused <;> cases refused
  rfl

/-- A position of the window can be moved to. -/
theorem seek_within (low : base.origin ≤ target) (high : target ≤ base.limit) :
    base.seek (target : Nat) = .ok (base.moveTo target) := by
  have window : (base.origin : Int) ≤ target ∧ (target : Int) ≤ base.limit :=
    ⟨Int.ofNat_le.mpr low, Int.ofNat_le.mpr high⟩
  rw [seek, if_pos window, Int.toNat_natCast]

/-- As many units as remain can be consumed. -/
theorem advance_within (short : amount ≤ base.remaining) :
    base.advance (amount : Nat) = .ok (base.moveTo (base.position + amount)) := by
  have room : (0 : Int) ≤ amount ∧ (amount : Int) ≤ base.remaining :=
    ⟨Int.natCast_nonneg _, Int.ofNat_le.mpr short⟩
  rw [advance, if_pos room, Int.toNat_natCast]

/-- A literal that stands at the cursor does not reach past the window. -/
theorem length_le_of_startsWith (stands : base.startsWith literal = true) :
    literal.length ≤ base.remaining := by
  simp only [startsWith, Bool.and_eq_true, decide_eq_true_eq] at stands
  exact stands.1

/-- A unit that is found at a position ahead leaves one more position ahead of it. -/
theorem ahead_next (ahead : base.Ahead here) (found : (base.moveTo here).unitAt 0 = .ok unit) :
    base.Ahead (here + 1) :=
  ⟨Nat.le_succ_of_le ahead.1, (unitAt_found found).1⟩

/-- The end of a literal that stands ahead is ahead. -/
theorem ahead_literal (ahead : base.Ahead here)
    (stands : (base.moveTo here).startsWith literal = true) :
    base.Ahead (here + literal.length) := by
  have short := length_le_of_startsWith stands
  have high := ahead.2
  rw [remaining_moveTo] at short
  exact ⟨Nat.le_add_right_of_le ahead.1, by omega⟩

/-- A text has octets exactly when it is what some octets read, and then it has only those. -/
private theorem encodeAll?_eq_some_iff :
    Latin1.encodeAll? text = some octets ↔ octets.map Latin1.decode = text := by
  induction text generalizing octets with
  | nil =>
    simp only [Latin1.encodeAll?, Option.some.injEq, List.map_eq_nil_iff]
    exact eq_comm
  | cons unit others ih =>
    constructor
    · intro encoded
      simp only [Latin1.encodeAll?] at encoded
      split at encoded
      · rename_i octet rest first later
        cases encoded
        rw [List.map_cons, Latin1.decode_of_encode? first, ih.mp later]
      · cases encoded
    · intro decoded
      cases octets with
      | nil => cases decoded
      | cons octet rest =>
        simp only [List.map_cons, List.cons.injEq] at decoded
        obtain ⟨rfl, later⟩ := decoded
        simp only [Latin1.encodeAll?, Latin1.encode?_decode, ih.mpr later]

/-- Octets hold a literal exactly when what they read starts with it. -/
private theorem octets_hold_iff (storage : Storage) (contents : List UInt8) (start limit : Nat)
    (literal : List Char) :
    (Buffer.octets storage contents).holdsAt start limit literal = true ↔
      literal <+: (contents.drop start).map Latin1.decode := by
  rw [List.prefix_map_iff]
  simp only [Buffer.holdsAt]
  constructor
  · intro holds
    split at holds
    · cases holds
    · rename_i encoded found
      refine ⟨encoded, ?_, (encodeAll?_eq_some_iff.mp found).symm⟩
      rw [List.prefix_iff_eq_take]
      exact (beq_iff_eq.mp holds).symm
  · rintro ⟨encoded, stands, read⟩
    rw [encodeAll?_eq_some_iff.mpr read.symm]
    exact beq_iff_eq.mpr (List.prefix_iff_eq_take.mp stands).symm

/-- A literal that stands at the cursor is how the units of the buffer go on from there, whether the
window lies in the buffer or not. -/
theorem prefix_of_startsWith (stands : base.startsWith literal = true) :
    literal <+: base.buffer.units.drop base.position := by
  simp only [startsWith, Bool.and_eq_true] at stands
  obtain ⟨_, holds⟩ := stands
  cases stored : base.buffer with
  | text characters =>
    rw [stored] at holds
    simp only [Buffer.holdsAt, List.isPrefixOf_iff_prefix, List.prefix_take_iff] at holds
    exact holds.1
  | octets storage contents =>
    rw [stored, octets_hold_iff, List.map_drop] at holds
    exact holds

/-- Whether characters or octets are stored, a literal stands at the cursor exactly when it is how
the remaining units start. -/
theorem startsWith_iff (inside : base.Inside) (literal : List Char) :
    base.startsWith literal = true ↔ literal <+: base.rest := by
  rw [rest_eq_take_drop inside, List.prefix_take_iff, startsWith, Bool.and_eq_true,
    decide_eq_true_iff]
  cases base.buffer with
  | text characters =>
    simp only [Buffer.holdsAt, Buffer.units, List.isPrefixOf_iff_prefix, List.prefix_take_iff]
    constructor
    · intro holds
      exact ⟨holds.2.1, holds.1⟩
    · intro holds
      exact ⟨holds.2, holds.1, holds.2⟩
  | octets storage contents =>
    rw [octets_hold_iff, Buffer.units, List.map_drop]
    exact and_comm

end SpanLexer.Cursor
