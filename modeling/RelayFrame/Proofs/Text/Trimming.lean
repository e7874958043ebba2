import Mathlib.Data.List.TakeWhile
import RelayFrame.Proofs.Text.Numerals
import RelayFrame.Text.CharClass

/-!
# White space around a text

A text without white space in it is what is left when white space is put around
it and trimmed off again.  Digits are no white space, and neither is anything
else that ASCII can show.
-/

namespace RelayFrame.Text

def IsBlankText (text : List Char) : Prop :=
  ∀ character ∈ text, isBlank character = true

instance : DecidablePred IsBlankText := List.decidableBAll _

def IsSolid (text : List Char) : Prop :=
  ∀ character ∈ text, isBlank character = false

instance : DecidablePred IsSolid := List.decidableBAll _

theorem IsSolid.nil : IsSolid [] :=
  fun _ member => nomatch member

theorem IsSolid.cons
    {character : Char} {text : List Char}
    (notBlank : isBlank character = false) (solid : IsSolid text) :
    IsSolid (character :: text) :=
  List.forall_mem_cons.mpr ⟨notBlank, solid⟩

theorem IsSolid.append
    {first second : List Char} (firstSolid : IsSolid first)
    (secondSolid : IsSolid second) : IsSolid (first ++ second) :=
  List.forall_mem_append.mpr ⟨firstSolid, secondSolid⟩

section Trimmed

variable {before text after : List Char}

theorem IsBlankText.reverse (blank : IsBlankText text) :
    IsBlankText text.reverse :=
  fun character member => blank character (List.mem_reverse.mp member)

theorem IsSolid.reverse (solid : IsSolid text) : IsSolid text.reverse :=
  fun character member => solid character (List.mem_reverse.mp member)

theorem dropWhile_isBlank_append
    (blank : IsBlankText before) (solid : IsSolid text) (present : text ≠ [])
    (rest : List Char) :
    (before ++ (text ++ rest)).dropWhile isBlank = text ++ rest := by
  rw [List.dropWhile_append_of_pos blank]
  cases text with
  | nil => exact absurd rfl present
  | cons first others =>
      have notBlank : ¬ isBlank first = true := by
        simp [solid first List.mem_cons_self]
      exact List.dropWhile_cons_of_neg notBlank

/-- Trimming takes away the white space around a text and nothing of the text.
-/
theorem trimmed_append
    (blankBefore : IsBlankText before) (blankAfter : IsBlankText after)
    (solid : IsSolid text) :
    trimmed (before ++ text ++ after) = text := by
  rw [trimmed]
  by_cases empty : text = []
  · have allBlank : IsBlankText (before ++ text ++ after) := by
      simp only [empty, List.append_nil]
      exact List.forall_mem_append.mpr ⟨blankBefore, blankAfter⟩
    rw [List.dropWhile_eq_nil_iff.mpr allBlank, empty]
    rfl
  · have reversePresent : text.reverse ≠ [] := by simpa using empty
    rw [List.append_assoc,
      dropWhile_isBlank_append blankBefore solid empty, List.reverse_append,
      ← List.append_nil text.reverse,
      dropWhile_isBlank_append blankAfter.reverse solid.reverse
        reversePresent,
      List.append_nil, List.reverse_reverse]

theorem trimmed_of_isSolid (solid : IsSolid text) : trimmed text = text := by
  have noBlanks : IsBlankText [] := by simp [IsBlankText]
  simpa using trimmed_append noBlanks noBlanks solid

end Trimmed

theorem isBlank_eq_false_of_between
    {character : Char} (above : 0x20 < character.toNat)
    (below : character.toNat < 0x85) : isBlank character = false := by
  simp [isBlank, inRanges, blankRanges]
  omega

theorem isBlank_eq_false_of_isDigit
    {base : Nat} {character : Char}
    (digit : Numeral.isDigit base character = true) :
    isBlank character = false := by
  have bounds := Numeral.toNat_bounds_of_isDigit digit
  exact isBlank_eq_false_of_between (by omega) (by omega)

end RelayFrame.Text
