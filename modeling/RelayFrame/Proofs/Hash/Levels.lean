import Mathlib.Data.Int.ModEq
import Mathlib.Data.List.Forall2
import Mathlib.Tactic.Ring
import RelayFrame.Proofs.Hash.Drift

/-!
# The drift, bit by bit

The low bits of a state evolve without the bits above them, so there is a
drift for every number of low bits.  One more bit adds to it a multiple of that
bit, a sum of signs that change to their opposites when the bit starts the
other way.  So the drift of fewer bits is the mean of two drifts of one bit
more, and the bit's own part is half their difference.
-/

namespace RelayFrame.Hash

/-! ## Fewer bits than a byte -/

/-- The low bits after one more byte. -/
def absorbBits (width low : Nat) (byte : UInt8) : Nat :=
  (low ^^^ byte.toNat % 2 ^ width) * 435 % 2 ^ width

def driftBits (width : Nat) : Nat → Bytes → Int
  | _, [] => 0
  | low, byte :: rest =>
      prime.toNat ^ (rest.length + 1) *
          ((low ^^^ byte.toNat % 2 ^ width : Nat) - low) +
        driftBits width (absorbBits width low byte) rest

theorem absorbBits_lt (width low : Nat) (byte : UInt8) :
    absorbBits width low byte < 2 ^ width :=
  Nat.mod_lt _ (Nat.two_pow_pos width)

theorem absorbBits_eight (low byte : UInt8) :
    absorbBits 8 low.toNat byte = (absorbLow low byte).toNat := by
  have byteBound := byte.toNat_lt
  rw [absorbBits, absorbLow, UInt8.toNat_mul, UInt8.toNat_xor,
    Nat.mod_eq_of_lt byteBound]
  change (low.toNat ^^^ byte.toNat) * 435 % 256 =
    (low.toNat ^^^ byte.toNat) * 179 % 256
  omega

theorem driftBits_eight (low : UInt8) (bytes : Bytes) :
    driftBits 8 low.toNat bytes = drift low bytes := by
  induction bytes generalizing low with
  | nil => rfl
  | cons byte rest inductionHypothesis =>
      rw [driftBits, drift, absorbBits_eight, inductionHypothesis, nudge,
        UInt8.toNat_xor, Nat.mod_eq_of_lt byte.toNat_lt]

/-! ## One more bit -/

/-- The sum of digits at the powers of the prime, the last digit at one. -/
def weigh : List Int → Int
  | [] => 0
  | digit :: digits => prime.toNat ^ digits.length * digit + weigh digits

/-- What each byte adds at the bit above `width` low bits, for a state with
that bit as given: one when it sets the bit, minus one when it clears it, and
zero when it leaves it. -/
def turns (width low : Nat) (bit : Bool) : Bytes → List Int
  | [] => []
  | byte :: rest =>
      let flipped := bit ^^ byte.toNat.testBit width
      let carried :=
        ((low ^^^ byte.toNat % 2 ^ width) * 435).testBit width
      ((flipped.toNat : Int) - bit.toNat) ::
        turns width (absorbBits width low byte) (carried ^^ flipped) rest

@[simp]
theorem length_turns
    (width low : Nat) (bit : Bool) (bytes : Bytes) :
    (turns width low bit bytes).length = bytes.length := by
  induction bytes generalizing low bit with
  | nil => rfl
  | cons byte rest inductionHypothesis =>
      simp [turns, inductionHypothesis]

theorem mod_two_pow_succ (number width : Nat) :
    number % 2 ^ (width + 1) =
      number % 2 ^ width + 2 ^ width * (number.testBit width).toNat := by
  rw [Nat.pow_succ, Nat.mod_mul, Nat.toNat_testBit]

private theorem xor_with_bit
    {width low byte : Nat} (lowBound : low < 2 ^ width) (bit : Bool) :
    (low + 2 ^ width * bit.toNat) ^^^ byte % 2 ^ (width + 1) =
      (low ^^^ byte % 2 ^ width) +
        2 ^ width * (bit ^^ byte.testBit width).toNat := by
  have positive := Nat.two_pow_pos width
  have lowPart :
      ((low + 2 ^ width * bit.toNat) ^^^ byte % 2 ^ (width + 1)) %
          2 ^ width =
        low ^^^ byte % 2 ^ width := by
    rw [Nat.xor_mod_two_pow, Nat.add_mul_mod_self_left,
      Nat.mod_eq_of_lt lowBound, mod_two_pow_succ, Nat.add_mul_mod_self_left,
      Nat.mod_mod]
  have highPart :
      ((low + 2 ^ width * bit.toNat) ^^^ byte % 2 ^ (width + 1)) /
          2 ^ width =
        (bit ^^ byte.testBit width).toNat := by
    rw [Nat.xor_div_two_pow, mod_two_pow_succ,
      Nat.add_mul_div_left _ _ positive, Nat.add_mul_div_left _ _ positive,
      Nat.div_eq_of_lt lowBound, Nat.div_eq_of_lt (Nat.mod_lt _ positive)]
    cases bit <;> cases byte.testBit width <;> rfl
  rw [← Nat.mod_add_div
    ((low + 2 ^ width * bit.toNat) ^^^ byte % 2 ^ (width + 1)) (2 ^ width),
    lowPart, highPart]

private theorem mul_with_bit (width mixed : Nat) (bit : Bool) :
    (mixed + 2 ^ width * bit.toNat) * 435 % 2 ^ (width + 1) =
      mixed * 435 % 2 ^ width +
        2 ^ width * ((mixed * 435).testBit width ^^ bit).toNat := by
  have residue := Nat.mod_lt (mixed * 435) (Nat.two_pow_pos width)
  have odd :
      2 ^ width * bit.toNat * 435 =
        2 ^ width * bit.toNat + 2 ^ width * 2 * (217 * bit.toNat) := by
    ring
  have expanded := mod_two_pow_succ (mixed * 435) width
  rw [Nat.pow_succ] at expanded ⊢
  rw [Nat.add_mul, odd, ← Nat.add_assoc, Nat.add_mul_mod_self_left,
    ← Nat.mod_add_mod, expanded]
  generalize mixed * 435 % 2 ^ width = rest at *
  generalize (mixed * 435).testBit width = carried
  generalize 2 ^ width = unit at *
  cases bit <;> cases carried
  · exact Nat.mod_eq_of_lt (by simp; omega)
  · exact Nat.mod_eq_of_lt (by simp; omega)
  · exact Nat.mod_eq_of_lt (by simp; omega)
  · have twice :
        rest + unit * true.toNat + unit * true.toNat = rest + unit * 2 * 1 := by
      simp only [Bool.toNat_true]
      omega
    rw [twice, Nat.add_mul_mod_self_left, Nat.mod_eq_of_lt (by omega)]
    simp

/-- One more bit of the state changes that bit of the result and none below it.
-/
theorem absorbBits_succ
    {width low : Nat} (lowBound : low < 2 ^ width) (bit : Bool)
    (byte : UInt8) :
    absorbBits (width + 1) (low + 2 ^ width * bit.toNat) byte =
      absorbBits width low byte +
        2 ^ width *
          (((low ^^^ byte.toNat % 2 ^ width) * 435).testBit width ^^
            (bit ^^ byte.toNat.testBit width)).toNat := by
  rw [absorbBits, xor_with_bit lowBound, mul_with_bit, absorbBits]

/-- The drift of one bit more. -/
theorem driftBits_succ
    {width low : Nat} (lowBound : low < 2 ^ width) (bit : Bool)
    (bytes : Bytes) :
    driftBits (width + 1) (low + 2 ^ width * bit.toNat) bytes =
      driftBits width low bytes +
        2 ^ width * (prime.toNat * weigh (turns width low bit bytes)) := by
  induction bytes generalizing low bit with
  | nil => simp [driftBits, turns, weigh]
  | cons byte rest inductionHypothesis =>
      rw [driftBits, absorbBits_succ lowBound,
        inductionHypothesis (absorbBits_lt _ _ _), xor_with_bit lowBound,
        driftBits, turns, weigh, length_turns]
      push_cast
      ring

/-- A bit that starts the other way turns the other way throughout. -/
theorem turns_not
    (width low : Nat) (bit : Bool) (bytes : Bytes) :
    turns width low (!bit) bytes = (turns width low bit bytes).map (- ·) := by
  induction bytes generalizing low bit with
  | nil => rfl
  | cons byte rest inductionHypothesis =>
      have opposite (other : Bool) :
          ((!(bit ^^ other)).toNat : Int) - (!bit).toNat =
            -((bit ^^ other).toNat - bit.toNat) := by
        cases bit <;> cases other <;> rfl
      simp only [turns, List.map_cons, opposite, Bool.not_xor, Bool.xor_not,
        inductionHypothesis]

theorem weigh_neg (digits : List Int) :
    weigh (digits.map (- ·)) = -weigh digits := by
  induction digits with
  | nil => rfl
  | cons digit digits inductionHypothesis =>
      simp only [List.map_cons, weigh, List.length_map, inductionHypothesis]
      ring

/-- Two drifts of one bit more make up twice the drift without that bit. -/
theorem driftBits_add_driftBits
    {width low : Nat} (lowBound : low < 2 ^ width) (bytes : Bytes) :
    driftBits (width + 1) low bytes +
        driftBits (width + 1) (low + 2 ^ width) bytes =
      2 * driftBits width low bytes := by
  have clear := driftBits_succ lowBound false bytes
  have set := driftBits_succ lowBound true bytes
  have opposite := turns_not width low false bytes
  rw [Bool.not_false] at opposite
  rw [opposite, weigh_neg] at set
  simp only [Bool.toNat_false, Bool.toNat_true, Nat.mul_zero, Nat.add_zero,
    Nat.mul_one] at clear set
  rw [clear, set]
  ring

end RelayFrame.Hash
