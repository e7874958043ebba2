import Mathlib.Data.List.Basic
import RelayFrame.Bytes.Hex
import RelayFrame.Proofs.Text.Numerals

/-!
# Hexadecimal text read back

A text is stored as the UTF-8 forms of its characters, one after the other.
No two texts are stored alike, and a text in ASCII takes one byte for each
character.

The text of a byte string has two digits for each byte.  All of them are ASCII,
so the text is stored with one byte for each digit, and decoding pairs these up
again.  So two byte strings never share their text.
-/

namespace RelayFrame.Text

/-- The UTF-8 forms of characters, one after the other. -/
def utf8 (characters : List Char) : Bytes :=
  characters.flatMap String.utf8EncodeChar

theorem stored_ofList (characters : List Char) :
    (String.ofList characters).toUTF8.data.toList = utf8 characters := by
  rw [String.toUTF8, String.toByteArray_ofList, List.utf8Encode,
    List.data_toByteArray, List.toList_toArray, utf8]

theorem utf8_injective : Function.Injective utf8 := by
  intro first second same
  rw [← stored_ofList, ← stored_ofList, Array.toList_inj] at same
  exact String.ofList_inj.mp (String.toByteArray_inj.mp (ByteArray.ext same))

theorem utf8_eq_map_of_ascii
    {characters : List Char} (ascii : ∀ c ∈ characters, c.toNat < 0x80) :
    utf8 characters = characters.map fun c => UInt8.ofNat c.toNat := by
  have alone (c : Char) (member : c ∈ characters) :
      String.utf8EncodeChar c = [UInt8.ofNat c.toNat] := by
    have narrow : c.utf8Size = 1 := by
      rw [Char.utf8Size_eq_one_iff, UInt32.le_iff_toNat_le]
      exact Nat.le_of_lt_succ (ascii c member)
    rw [String.utf8EncodeChar_eq_singleton narrow]
    rfl
  rw [utf8, List.map_eq_flatMap]
  exact List.flatMap_congr alone

end RelayFrame.Text

namespace RelayFrame.Hex

open Numeral

theorem isDigit_of_mem_digits
    {bytes : Bytes} {digit : Char} (member : digit ∈ digits bytes) :
    isDigit 16 digit = true := by
  obtain ⟨byte, -, inByte⟩ := List.mem_flatMap.mp member
  have byteBound := byte.toNat_lt
  simp only [hexByte, List.mem_cons, List.not_mem_nil, or_false] at inByte
  rcases inByte with rfl | rfl
  · exact isDigit_digitChar (Nat.le_refl 16) (by omega)
  · exact isDigit_digitChar (Nat.le_refl 16) (by omega)

/-- Hexadecimal text is stored with one byte for each digit. -/
theorem stored_encode (bytes : Bytes) :
    (encode bytes).toUTF8.data.toList =
      (digits bytes).map fun c => UInt8.ofNat c.toNat := by
  rw [encode, Text.stored_ofList]
  apply Text.utf8_eq_map_of_ascii
  intro c member
  have bounds := toNat_bounds_of_isDigit (isDigit_of_mem_digits member)
  omega

theorem length_digits (bytes : Bytes) :
    (digits bytes).length = 2 * bytes.length := by
  induction bytes with
  | nil => rfl
  | cons byte rest inductionHypothesis =>
      change (digits rest).length + 2 = 2 * (rest.length + 1)
      omega

theorem byteDigit?_ofNat_digitChar {value : Nat} (small : value < 16) :
    byteDigit? (UInt8.ofNat (Nat.digitChar value).toNat) = some value := by
  revert value
  decide

/-- Stored digits are paired up to the bytes they were written for, wherever
the first of them stands. -/
theorem decodeFrom_digits (bytes : Bytes) (position : Nat) :
    decodeFrom position ((digits bytes).map fun c => UInt8.ofNat c.toNat) =
      .ok bytes := by
  induction bytes generalizing position with
  | nil => rfl
  | cons byte rest inductionHypothesis =>
      have byteBound := byte.toNat_lt
      have value : 16 * (byte.toNat / 16) + byte.toNat % 16 = byte.toNat :=
        Nat.div_add_mod _ 16
      change
        decodeFrom position
            (UInt8.ofNat (Nat.digitChar (byte.toNat / 16)).toNat ::
              UInt8.ofNat (Nat.digitChar (byte.toNat % 16)).toNat ::
                (digits rest).map fun c => UInt8.ofNat c.toNat) =
          _
      rw [decodeFrom, byteDigit?_ofNat_digitChar (by omega),
        byteDigit?_ofNat_digitChar (by omega)]
      simp only [inductionHypothesis, value, UInt8.ofNat_toNat]
      rfl

/-- What is written as hexadecimal text is read back. -/
theorem decode_encode (bytes : Bytes) : decode (encode bytes) = .ok bytes := by
  have even : (encode bytes).toUTF8.data.toList.length % 2 ≠ 1 := by
    rw [stored_encode, List.length_map, length_digits]
    omega
  rw [decode, if_neg even, stored_encode, decodeFrom_digits]

theorem encode_inj {bytes otherBytes : Bytes} :
    encode bytes = encode otherBytes ↔ bytes = otherBytes := by
  constructor
  · intro sameText
    have sameResult := congrArg decode sameText
    rwa [decode_encode, decode_encode, Except.ok.injEq] at sameResult
  · rintro rfl
    rfl

end RelayFrame.Hex
