import Mathlib.RingTheory.Coprime.Lemmas
import RelayFrame.Proofs.Hash.Multiples
import RelayFrame.Proofs.Lattice.PrimePowers

/-!
# Short runs that act alike

Up to 24 bytes are known by what they do to the states.  Runs of one length
that lead every state to the same state have congruent drifts, and this comes
down to the drift of any number of low bits.  From there the runs agree bit by
bit, from the lowest up: when they agree in the bits below, what the next bit
adds to their drifts is decided by their turns, and the difference of these is
too small to weigh a multiple of `2 ^ 57`.
-/

namespace RelayFrame.Hash

/-- Whether two runs of bytes lead every state to the same state. -/
def ActAlike (first second : Bytes) : Prop :=
  ∀ state, absorbAll state first = absorbAll state second

variable {first second : Bytes}

theorem ActAlike.of_append_left
    {front : Bytes} (alike : ActAlike (front ++ first) (front ++ second)) :
    ActAlike first second := by
  intro state
  obtain ⟨before, rfl⟩ := exists_absorbAll_eq front state
  have continued := alike before
  rwa [absorbAll_append, absorbAll_append] at continued

theorem ActAlike.of_append_right
    {back : Bytes} (alike : ActAlike (first ++ back) (second ++ back)) :
    ActAlike first second := by
  intro state
  have continued := alike state
  rw [absorbAll_append, absorbAll_append] at continued
  exact absorbAll_injective continued

/-! ## Drifts of runs that act alike -/

/-- Runs of one length that act alike have the same drift from every low byte.
-/
theorem ActAlike.drift_modEq
    (alike : ActAlike first second)
    (sameLength : first.length = second.length) (low : UInt8) :
    drift low first ≡ drift low second [ZMOD 2 ^ 64] := by
  have apart := toNat_absorbAll_sub low.toUInt64 sameLength
  rw [alike, sub_self, UInt8.toUInt8_toUInt64] at apart
  have difference := apart.symm.add_right (drift low second)
  rwa [sub_add_cancel, zero_add] at difference

/-- From the drift of whole low bytes to that of fewer bits: two states that
differ in the next bit have drifts that add up to twice the one below. -/
private theorem driftBits_modEq_below
    (whole : ∀ low : UInt8, drift low first ≡ drift low second [ZMOD 2 ^ 64])
    (missing : Nat) :
    ∀ width, width + missing = 8 → ∀ low < 2 ^ width,
      driftBits width low first ≡ driftBits width low second
        [ZMOD 2 ^ (56 + width)] := by
  -- On the bits that are missing from the low byte: every drift is the mean of
  -- two drifts of one bit more, which are congruent to one bit more.
  induction missing with
  | zero =>
      rintro width rfl low bound
      have same := whole (UInt8.ofNat low)
      rw [← driftBits_eight, ← driftBits_eight, UInt8.toNat_ofNat_of_lt' bound]
        at same
      exact same
  | succ missing inductionHypothesis =>
      intro width sum low bound
      have wider :=
        inductionHypothesis (width + 1) (by omega)
      have clear := wider low (by rw [Nat.pow_succ]; omega)
      have set := wider (low + 2 ^ width) (by rw [Nat.pow_succ]; omega)
      have twice := clear.add set
      rw [driftBits_add_driftBits bound, driftBits_add_driftBits bound,
        ← Nat.add_assoc, pow_succ'] at twice
      exact Int.ModEq.mul_left_cancel' (by decide) twice

theorem ActAlike.driftBits_modEq
    (alike : ActAlike first second)
    (sameLength : first.length = second.length)
    {width low : Nat} (narrow : width ≤ 8) (lowBound : low < 2 ^ width) :
    driftBits width low first ≡ driftBits width low second
      [ZMOD 2 ^ (56 + width)] :=
  driftBits_modEq_below (alike.drift_modEq sameLength) (8 - width) width
    (by omega) low lowBound

/-! ## Agreement in low bits -/

def lowBits (width : Nat) (bytes : Bytes) : List Nat :=
  bytes.map (·.toNat % 2 ^ width)

theorem lowBits_cons_inj
    {width : Nat} {byte otherByte : UInt8} {rest otherRest : Bytes} :
    lowBits width (byte :: rest) = lowBits width (otherByte :: otherRest) ↔
      byte.toNat % 2 ^ width = otherByte.toNat % 2 ^ width ∧
        lowBits width rest = lowBits width otherRest :=
  List.cons_eq_cons

theorem length_eq_of_lowBits_eq
    {width : Nat} (same : lowBits width first = lowBits width second) :
    first.length = second.length := by
  simpa [lowBits] using congrArg List.length same

theorem lowBits_eight_injective
    (same : lowBits 8 first = lowBits 8 second) : first = second := by
  apply List.map_injective_iff.mpr _ same
  intro byte other sameBits
  apply UInt8.toNat_inj.mp
  have byteValue : byte.toNat % 2 ^ 8 = byte.toNat :=
    Nat.mod_eq_of_lt byte.toNat_lt
  have otherValue : other.toNat % 2 ^ 8 = other.toNat :=
    Nat.mod_eq_of_lt other.toNat_lt
  rw [← byteValue, ← otherValue]
  exact sameBits

theorem driftBits_eq_of_lowBits_eq
    {width : Nat} (same : lowBits width first = lowBits width second)
    (low : Nat) :
    driftBits width low first = driftBits width low second := by
  induction first generalizing second low with
  | nil =>
      rw [List.map_eq_nil_iff.mp same.symm]
  | cons byte rest inductionHypothesis =>
      cases second with
      | nil => cases same
      | cons otherByte otherRest =>
          obtain ⟨sameByte, sameRest⟩ := lowBits_cons_inj.mp same
          rw [driftBits, driftBits, absorbBits, absorbBits, sameByte,
            length_eq_of_lowBits_eq sameRest, inductionHypothesis sameRest]

private theorem testBit_eq_of_turn_eq
    {bit set otherSet : Bool}
    (same :
      ((bit ^^ set).toNat : Int) - bit.toNat =
        (bit ^^ otherSet).toNat - bit.toNat) :
    set = otherSet := by
  revert bit set otherSet
  decide

/-- Runs that agree in the low bits and turn alike agree in one bit more. -/
theorem lowBits_succ_eq
    {width : Nat} (same : lowBits width first = lowBits width second)
    {low : Nat} {bit : Bool}
    (sameTurns : turns width low bit first = turns width low bit second) :
    lowBits (width + 1) first = lowBits (width + 1) second := by
  induction first generalizing second low bit with
  | nil =>
      rw [List.map_eq_nil_iff.mp same.symm]
  | cons byte rest inductionHypothesis =>
      cases second with
      | nil => cases same
      | cons otherByte otherRest =>
          obtain ⟨sameByte, sameRest⟩ := lowBits_cons_inj.mp same
          obtain ⟨sameTurn, sameLater⟩ := List.cons.inj sameTurns
          have sameBit := testBit_eq_of_turn_eq sameTurn
          rw [absorbBits, absorbBits, sameByte, sameBit] at sameLater
          apply lowBits_cons_inj.mpr
          constructor
          · rw [mod_two_pow_succ, mod_two_pow_succ, sameByte, sameBit]
          · exact inductionHypothesis sameRest sameLater

/-! ## Differences of turns -/

def minus (digits others : List Int) : List Int :=
  List.zipWith (· - ·) digits others

variable {digits others : List Int}

theorem length_minus
    (sameLength : digits.length = others.length) :
    (minus digits others).length = digits.length := by
  rw [minus, List.length_zipWith, sameLength, Nat.min_self]

theorem weigh_minus
    (sameLength : digits.length = others.length) :
    weigh (minus digits others) = weigh digits - weigh others := by
  induction digits generalizing others with
  | nil =>
      rw [List.length_eq_zero_iff.mp sameLength.symm]
      rfl
  | cons digit digits inductionHypothesis =>
      cases others with
      | nil => cases sameLength
      | cons other others =>
          have sameRest : digits.length = others.length :=
            Nat.succ.inj sameLength
          have rest := inductionHypothesis sameRest
          have restLength := length_minus sameRest
          rw [minus] at rest restLength
          rw [minus, List.zipWith_cons_cons, weigh, weigh, weigh, restLength,
            rest, ← sameRest]
          ring

theorem eq_of_minus_eq_zeros
    (sameLength : digits.length = others.length)
    (zero : minus digits others = Lattice.zeros digits.length) :
    digits = others := by
  induction digits generalizing others with
  | nil => rw [List.length_eq_zero_iff.mp sameLength.symm]
  | cons digit digits inductionHypothesis =>
      cases others with
      | nil => cases sameLength
      | cons other others =>
          obtain ⟨head, rest⟩ := List.cons.inj zero
          rw [Int.sub_eq_zero.mp head,
            inductionHypothesis (Nat.succ.inj sameLength) rest]

theorem within_minus
    (small : Lattice.Within 1 digits) (otherSmall : Lattice.Within 1 others) :
    Lattice.Within 2 (minus digits others) := by
  intro entry member
  obtain ⟨index, inside, rfl⟩ := List.getElem_of_mem member
  simp only [minus, List.length_zipWith, lt_inf_iff] at inside
  have bound := small _ (List.getElem_mem inside.1)
  have otherBound := otherSmall _ (List.getElem_mem inside.2)
  simp only [minus, List.getElem_zipWith]
  omega

theorem within_turns
    (width low : Nat) (bit : Bool) (bytes : Bytes) :
    Lattice.Within 1 (turns width low bit bytes) := by
  induction bytes generalizing low bit with
  | nil =>
      intro entry member
      cases member
  | cons byte rest inductionHypothesis =>
      simp only [turns, Lattice.Within, List.mem_cons, forall_eq_or_imp]
      refine ⟨?_, inductionHypothesis _ _⟩
      cases bit <;> cases byte.toNat.testBit width <;> decide

/-! ## Bit by bit -/

private theorem weigh_modEq_of_scaled
    {width : Nat}
    (scaled :
      (2 : Int) ^ width * (prime.toNat * weigh digits) ≡
        2 ^ width * (prime.toNat * weigh others) [ZMOD 2 ^ (57 + width)]) :
    weigh digits ≡ weigh others [ZMOD 2 ^ 57] := by
  rw [Nat.add_comm, pow_add] at scaled
  have odd : IsCoprime ((2 : Int) ^ 57) prime.toNat := by
    apply IsCoprime.pow_left
    exact ⟨-(prime.toNat / 2 : Nat), 1, by decide⟩
  have unscaled := Int.ModEq.mul_left_cancel' (by positivity) scaled
  apply Int.modEq_of_dvd
  apply odd.dvd_of_dvd_mul_left
  rw [mul_sub]
  exact unscaled.dvd

/-- Up to 24 bytes turn alike when they act alike and agree in the bits
below. -/
private theorem turns_eq_of_actAlike
    (sameLength : first.length = second.length) (short : first.length ≤ 24)
    (alike : ActAlike first second) {width : Nat} (narrow : width < 8)
    (same : lowBits width first = lowBits width second) :
    turns width 0 false first = turns width 0 false second := by
  have turnLengths :
      (turns width 0 false first).length =
        (turns width 0 false second).length := by simp [sameLength]
  have positive := Nat.two_pow_pos width
  have wider :=
    @ActAlike.driftBits_modEq _ _ alike sameLength (width + 1)
      (0 + 2 ^ width * false.toNat) narrow (by simp)
  rw [driftBits_succ positive, driftBits_succ positive,
    driftBits_eq_of_lowBits_eq same, ← Nat.add_assoc, Nat.add_right_comm]
    at wider
  have weights := weigh_modEq_of_scaled (wider.add_left_cancel' _)
  apply eq_of_minus_eq_zeros turnLengths
  rw [← length_minus turnLengths]
  apply Lattice.eq_zeros_of_weigh_modEq
  · rw [length_minus turnLengths, length_turns]
    exact short
  · exact within_minus (within_turns _ _ _ _) (within_turns _ _ _ _)
  · rw [weigh_minus turnLengths]
    exact Int.modEq_zero_iff_dvd.mpr weights.symm.dvd

/-- Runs of one length, up to 24 bytes, that lead every state to the same
state are the same. -/
theorem ActAlike.eq_of_length_le
    (alike : ActAlike first second)
    (sameLength : first.length = second.length)
    (short : first.length ≤ 24) : first = second := by
  have agree (width : Nat) (narrow : width ≤ 8) :
      lowBits width first = lowBits width second := by
    induction width with
    | zero => simp [lowBits, Nat.mod_one, sameLength]
    | succ width inductionHypothesis =>
        have below := inductionHypothesis (by omega)
        exact lowBits_succ_eq below
          (turns_eq_of_actAlike sameLength short alike narrow below)
  exact lowBits_eight_injective (agree 8 (Nat.le_refl 8))

end RelayFrame.Hash
