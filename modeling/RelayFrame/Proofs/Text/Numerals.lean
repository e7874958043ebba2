import Mathlib.Data.List.Basic
import RelayFrame.Text.Numeral

/-!
# Numerals read back

The digits that a number is written with are taken off a text as that number,
whatever follows them, as long as it is no digit.  This holds in every base
that has digits here.  The first digit is a zero only if the number is.
-/

namespace RelayFrame

namespace Numeral

/-! ## Digits -/

theorem digitValue?_digitChar {value : Nat} (small : value < 16) :
    digitValue? (Nat.digitChar value) = some value := by
  revert value
  decide

theorem isDigit_digitChar
    {base value : Nat} (small : base ≤ 16) (below : value < base) :
    isDigit base (Nat.digitChar value) = true := by
  rw [isDigit, digitValue?_digitChar (Nat.lt_of_lt_of_le below small)]
  exact decide_eq_true below

theorem isDigit_of_le
    {base larger : Nat} {character : Char} (le : base ≤ larger)
    (digit : isDigit base character = true) :
    isDigit larger character = true := by
  simp only [isDigit, Option.any_eq_true, decide_eq_true_eq] at digit ⊢
  obtain ⟨value, isValue, below⟩ := digit
  exact ⟨value, isValue, Nat.lt_of_lt_of_le below le⟩

/-- All digits lie between the zero and the small f. -/
theorem toNat_bounds_of_isDigit
    {base : Nat} {character : Char}
    (digit : isDigit base character = true) :
    48 ≤ character.toNat ∧ character.toNat ≤ 102 := by
  obtain ⟨value, isValue, -⟩ := (Option.any_eq_true _ _).mp digit
  rw [digitValue?] at isValue
  simp only [Char.le_def, UInt32.le_iff_toNat_le, Char.toNat_val] at isValue
  grind

theorem ofDigits_append_singleton
    (base : Nat) (digits : List Char) (digit : Char) :
    ofDigits base (digits ++ [digit]) =
      base * ofDigits base digits + (digitValue? digit).getD 0 :=
  List.foldl_append

section Base

variable {base : Nat} (large : 1 < base)
include large

theorem head?_toDigits_ne_zero {number : Nat} (positive : 0 < number) :
    (Nat.toDigits base number).head? ≠ some '0' := by
  induction number using Nat.strongRecOn with
  | ind number inductionHypothesis =>
      rw [Nat.toDigits_eq_if large]
      split
      case isTrue below => simp [Nat.ne_of_gt positive]
      case isFalse notBelow =>
        have stillPositive : 0 < number / base :=
          Nat.div_pos (Nat.not_lt.mp notBelow) (by omega)
        rw [List.head?_append_of_ne_nil _ Nat.toDigits_ne_nil]
        exact
          inductionHypothesis _ (Nat.div_lt_self positive large) stillPositive

variable (small : base ≤ 16)
include small

theorem isDigit_of_mem_toDigits
    {number : Nat} {digit : Char}
    (member : digit ∈ Nat.toDigits base number) :
    isDigit base digit = true := by
  induction number using Nat.strongRecOn with
  | ind number inductionHypothesis =>
      rw [Nat.toDigits_eq_if large] at member
      split at member
      case isTrue below =>
        rw [List.mem_singleton.mp member]
        exact isDigit_digitChar small below
      case isFalse notBelow =>
        rcases List.mem_append.mp member with earlier | last
        · exact
            inductionHypothesis _ (Nat.div_lt_self (by omega) large) earlier
        · rw [List.mem_singleton.mp last]
          exact isDigit_digitChar small (Nat.mod_lt _ (by omega))

theorem not_mem_toDigits
    {character : Char} (notDigit : isDigit base character = false)
    (number : Nat) : character ∉ Nat.toDigits base number := by
  intro member
  rw [isDigit_of_mem_toDigits large small member] at notDigit
  cases notDigit

/-- The digits of a number stand for it. -/
theorem ofDigits_toDigits (number : Nat) :
    ofDigits base (Nat.toDigits base number) = number := by
  induction number using Nat.strongRecOn with
  | ind number inductionHypothesis =>
      rw [Nat.toDigits_eq_if large]
      split
      case isTrue below =>
        rw [← List.nil_append [_], ofDigits_append_singleton,
          digitValue?_digitChar (by omega)]
        exact Nat.zero_add number
      case isFalse notBelow =>
        have lastBelow : number % base < base := Nat.mod_lt _ (by omega)
        rw [ofDigits_append_singleton,
          inductionHypothesis _ (Nat.div_lt_self (by omega) large),
          digitValue?_digitChar (by omega)]
        exact Nat.div_add_mod number base

end Base

end Numeral

namespace Text

open Numeral

/-! ## Where a run of digits ends -/

/-- Whether a text does not go on with a digit. -/
def StopsDigits (base : Nat) (text : List Char) : Prop :=
  ∀ character ∈ text.head?, isDigit base character = false

theorem stopsDigits_nil (base : Nat) : StopsDigits base [] := by
  intro character isHead
  cases isHead

theorem stopsDigits_cons
    {base : Nat} {character : Char}
    (notDigit : isDigit base character = false) (rest : List Char) :
    StopsDigits base (character :: rest) := by
  intro head isHead
  cases isHead
  exact notDigit

section Stops

variable {base : Nat} {digits rest : List Char}

theorem StopsDigits.of_le
    {larger : Nat} (le : base ≤ larger) (stops : StopsDigits larger rest) :
    StopsDigits base rest := by
  intro character isHead
  rw [← Bool.not_eq_true]
  intro digit
  have inLarger := isDigit_of_le le digit
  rw [stops character isHead] at inLarger
  cases inLarger

theorem StopsDigits.takeWhile_eq (stops : StopsDigits base rest) :
    rest.takeWhile (isDigit base) = [] := by
  cases rest with
  | nil => rfl
  | cons first others =>
      exact List.takeWhile_cons_of_neg (by simp [stops first rfl])

theorem StopsDigits.dropWhile_eq (stops : StopsDigits base rest) :
    rest.dropWhile (isDigit base) = rest := by
  cases rest with
  | nil => rfl
  | cons first others =>
      exact List.dropWhile_cons_of_neg (by simp [stops first rfl])

end Stops

/-! ## Taking numerals -/

/-- A number that is written out is read back when no digit follows it. -/
theorem numeral_toDigits_append
    {base bound number : Nat} {allowed : List Char → Bool} {rest : List Char}
    (large : 1 < base) (small : base ≤ 16)
    (isAllowed : allowed (Nat.toDigits base number) = true)
    (fits : number < bound) (stops : StopsDigits base rest) :
    numeral base bound allowed (Nat.toDigits base number ++ rest) =
      some (number, rest) := by
  have areDigits (digit : Char) (member : digit ∈ Nat.toDigits base number) :=
    isDigit_of_mem_toDigits large small member
  simp only [numeral, List.takeWhile_append_of_pos areDigits,
    List.dropWhile_append_of_pos areDigits, stops.takeWhile_eq,
    stops.dropWhile_eq, List.append_nil, ofDigits_toDigits large small]
  rw [if_pos ⟨Nat.toDigits_ne_nil, isAllowed⟩, if_pos fits]

theorem numeral_of_stopsDigits
    {base : Nat} {text : List Char} (stops : StopsDigits base text)
    (bound : Nat) (allowed : List Char → Bool) :
    numeral base bound allowed text = none := by
  simp [numeral, stops.takeWhile_eq]

/-- What follows a numeral is a part of the text it was taken off. -/
theorem subset_of_numeral_eq_some
    {base bound number : Nat} {allowed : List Char → Bool}
    {text rest : List Char}
    (taken : numeral base bound allowed text = some (number, rest)) :
    rest ⊆ text := by
  have isRest : text.dropWhile (isDigit base) = rest := by
    simp only [numeral] at taken
    grind
  rw [← isRest]
  exact (List.dropWhile_sublist _).subset

/-! ## Taking one character -/

@[simp]
theorem after?_cons_self (character : Char) (rest : List Char) :
    after? character (character :: rest) = some rest :=
  if_pos rfl

theorem eq_cons_of_after?_eq_some
    {character : Char} {text rest : List Char}
    (after : after? character text = some rest) :
    text = character :: rest := by
  cases text with
  | nil => cases after
  | cons first others =>
      rw [after?] at after
      split at after
      case isTrue same =>
        cases after
        rw [same]
      case isFalse => cases after

end Text

end RelayFrame
