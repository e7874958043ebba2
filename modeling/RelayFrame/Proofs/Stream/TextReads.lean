import RelayFrame.Proofs.Stream.InPlace
import RelayFrame.Proofs.Bytes.HexText

/-!
# How the reading of a text ends

A text stands behind a count of its bytes, and whoever sent the bytes chose the
count.  It is looked at before anything behind it: first it must keep to the
limit, then so many bytes must remain.  Only then are they taken, and they are
a text if they are the UTF-8 forms of some characters, which are then the only
ones.  A reader that fails for any of these reasons is where it was before.
-/

namespace RelayFrame.Stream

/-! ## Bytes that are a text -/

/-- A text is read from the bytes that it is stored as and from no others. -/
theorem textOfBytes?_eq_some_iff {bytes : Bytes} {value : String} :
    textOfBytes? bytes = some value ↔ textBytes value = bytes := by
  constructor
  · exact textBytes_of_textOfBytes?
  · rintro rfl
    exact textOfBytes?_textBytes value

theorem textOfBytes?_utf8 (characters : List Char) :
    textOfBytes? (Text.utf8 characters) = some (String.ofList characters) :=
  textOfBytes?_eq_some_iff.mpr (Text.stored_ofList characters)

theorem textOfBytes?_eq_none
    {bytes : Bytes} (noText : ∀ characters, Text.utf8 characters ≠ bytes) :
    textOfBytes? bytes = none := by
  rw [Option.eq_none_iff_forall_not_mem]
  intro value isText
  apply noText value.toList
  rw [← Text.stored_ofList, String.ofList_toList]
  exact textOfBytes?_eq_some_iff.mp isText

namespace Input

/-! ## Bytes that are a count -/

variable {input : Input} {length : UInt32}

theorem exists_count (enough : 4 ≤ input.remaining) :
    ∃ length : UInt32, input.ahead 4 = littleEndian 4 length.toNat := by
  have width := length_ahead enough
  refine ⟨UInt32.ofNat (ofLittleEndian (input.ahead 4)), ?_⟩
  rw [UInt32.toNat_ofNat_of_lt' (ofLittleEndian_lt_of_length width),
    littleEndian_ofLittleEndian_of_length width]

theorem takeNumber_of_count
    (counted : input.ahead 4 = littleEndian 4 length.toNat) :
    input.takeNumber 4 = .ok (length.toNat, input.advance 4) := by
  apply takeNumber_of_tail length.toNat_lt
  rw [← counted]
  exact (List.take_append_drop 4 input.tail).symm

theorem remaining_advance (input : Input) (count : Nat) :
    (input.advance count).remaining = input.remaining - count :=
  Nat.sub_add_eq ..

end Input

/-! ## Where the reader is when it fails -/

namespace Reader

variable {limit length : UInt32} {input : Input}

theorem run_textBody_of_short (short : input.remaining < 4) :
    (textBody limit).run.run input =
      (.error (.endOfInput 4 input.remaining), input) := by
  rw [textBody, run_bind, run_ofRead, Input.takeNumber,
    Input.take_of_remaining_lt short]
  rfl

section Counted

variable (counted : input.ahead 4 = littleEndian 4 length.toNat)
include counted

/-- The limit is checked before the bytes that remain. -/
theorem run_textBody_of_long (long : limit < length) :
    (textBody limit).run.run input =
      (.error (.textTooLong length limit), input.advance 4) := by
  rw [textBody, run_bind, run_ofRead, Input.takeNumber_of_count counted]
  simp only [Input.settle]
  rw [if_pos (UInt32.lt_iff_toNat_lt.mp long), UInt32.ofNat_toNat]
  rfl

/-- A count that keeps to the limit leads to the bytes behind it. -/
theorem run_textBody_of_le (within : length ≤ limit) :
    (textBody limit).run.run input =
      match (input.advance 4).take length.toNat with
      | .error error => (.error error, input.advance 4)
      | .ok (bytes, later) =>
          match textOfBytes? bytes with
          | some value => (.ok value, later)
          | none => (.error (.invalidText length.toNat), later) := by
  rw [textBody, run_bind, run_ofRead, Input.takeNumber_of_count counted]
  simp only [Input.settle]
  rw [if_neg (Nat.not_lt.mpr (UInt32.le_iff_toNat_le.mp within)), run_bind,
    run_ofRead]
  cases (input.advance 4).take length.toNat with
  | error error => rfl
  | ok pair =>
      obtain ⟨bytes, later⟩ := pair
      simp only [Input.settle]
      cases textOfBytes? bytes <;> rfl

theorem run_textBody_of_cut
    (within : length ≤ limit) (cut : input.remaining - 4 < length.toNat) :
    (textBody limit).run.run input =
      (.error (.endOfInput length.toNat (input.remaining - 4)),
        input.advance 4) := by
  rw [← input.remaining_advance] at cut ⊢
  rw [run_textBody_of_le counted within, Input.take_of_remaining_lt cut]

/-- Only what its two checks have let pass is looked at. -/
theorem run_textBody_of_room
    (within : length ≤ limit) (room : length.toNat ≤ input.remaining - 4) :
    (textBody limit).run.run input =
      match textOfBytes? ((input.advance 4).ahead length.toNat) with
      | some value => (.ok value, input.advance (4 + length.toNat))
      | none =>
          (.error (.invalidText length.toNat),
            input.advance (4 + length.toNat)) := by
  rw [← input.remaining_advance] at room
  rw [run_textBody_of_le counted within,
    Input.take_eq_ok_iff.mpr ⟨room, rfl, rfl⟩, Input.advance_advance]

end Counted

/-! ## What the reader gives in the end -/

theorem run_text_of_ok
    {value : String} {later : Input}
    (succeeds : (textBody limit).run.run input = (.ok value, later)) :
    (text limit).run.run input = (.ok value, later) := by
  rw [text, run_get_bind, run_tryCatch, succeeds]

/-- However far it has moved, a reader that fails goes back. -/
theorem run_text_of_error
    {error : ReadError} (moved : Nat)
    (fails :
      (textBody limit).run.run input = (.error error, input.advance moved)) :
    (text limit).run.run input = (.error error, input) := by
  rw [text, run_get_bind, run_tryCatch, fails]
  rfl

end Reader

/-- How the reading of a text ends.  With fewer than four bytes left there is
no count.  Otherwise there is one, and it is compared with the limit, whatever
remains behind it, and then with what remains.  As long as it has not passed
both checks the reader has taken nothing but the count.  After that the bytes
decide: either they are the UTF-8 forms of no characters, or of exactly one row
of them, which is read.  A reader that fails has not moved. -/
theorem text_is_taken_after_its_count_has_passed
    (input : Input) (limit : UInt32) :
    let available := input.remaining
    let body := (Reader.textBody limit).run.run input
    let read := (Reader.text limit).run.run input
    (available < 4 → read = (.error (.endOfInput 4 available), input)) ∧
      (4 ≤ available →
        ∃ length : UInt32, input.ahead 4 = littleEndian 4 length.toNat) ∧
      ∀ length : UInt32, input.ahead 4 = littleEndian 4 length.toNat →
        let bytes := (input.advance 4).ahead length.toNat
        (limit < length →
          read = (.error (.textTooLong length limit), input)) ∧
        (length ≤ limit → available - 4 < length.toNat →
          read =
            (.error (.endOfInput length.toNat (available - 4)), input)) ∧
        (limit < length ∨ available - 4 < length.toNat →
          body.2 = input.advance 4) ∧
        (length ≤ limit → length.toNat ≤ available - 4 →
          ((∀ characters, Text.utf8 characters ≠ bytes) →
            read = (.error (.invalidText length.toNat), input)) ∧
          ∀ characters, Text.utf8 characters = bytes →
            read =
              (.ok (String.ofList characters),
                input.advance (4 + length.toNat)) ∧
            ∀ others, Text.utf8 others = bytes → others = characters) := by
  intro available body read
  refine ⟨?_, Input.exists_count, ?_⟩
  · intro short
    exact Reader.run_text_of_error 0 (Reader.run_textBody_of_short short)
  intro length counted bytes
  refine ⟨?_, ?_, ?_, ?_⟩
  · intro long
    exact Reader.run_text_of_error 4
      (Reader.run_textBody_of_long counted long)
  · intro within cut
    exact Reader.run_text_of_error 4
      (Reader.run_textBody_of_cut counted within cut)
  · intro stops
    by_cases within : length ≤ limit
    · have cut := stops.resolve_left (UInt32.not_lt.mpr within)
      exact congrArg Prod.snd (Reader.run_textBody_of_cut counted within cut)
    · have long := UInt32.not_le.mp within
      exact congrArg Prod.snd (Reader.run_textBody_of_long counted long)
  · intro within room
    have taken := Reader.run_textBody_of_room counted within room
    constructor
    · intro noText
      rw [textOfBytes?_eq_none noText] at taken
      exact Reader.run_text_of_error (4 + length.toNat) taken
    · intro characters isText
      have value := textOfBytes?_utf8 characters
      rw [isText] at value
      rw [value] at taken
      exact ⟨Reader.run_text_of_ok taken, fun others same =>
        Text.utf8_injective (same.trans isText.symm)⟩

/-- A count of three before the bytes of one character, one that passes the
limit with nothing behind it, and one before half of a pair of surrogates. -/
theorem text_of_one_character_is_read_and_surrogate_is_refused :
    (Reader.text 3).run.run ⟨[9, 3, 0, 0, 0, 0xe2, 0x82, 0xac, 7], 1⟩ =
        (.ok "€", ⟨[9, 3, 0, 0, 0, 0xe2, 0x82, 0xac, 7], 8⟩) ∧
      (Reader.text 3).run.run ⟨[4, 0, 0, 0], 0⟩ =
        (.error (.textTooLong 4 3), ⟨[4, 0, 0, 0], 0⟩) ∧
      (Reader.text 3).run.run ⟨[3, 0, 0, 0, 0xed, 0xa0, 0x80], 0⟩ =
        (.error (.invalidText 3), ⟨[3, 0, 0, 0, 0xed, 0xa0, 0x80], 0⟩) := by
  refine ⟨?_, ?_, ?_⟩
  · obtain ⟨-, -, ends⟩ :=
      text_is_taken_after_its_count_has_passed
        ⟨[9, 3, 0, 0, 0, 0xe2, 0x82, 0xac, 7], 1⟩ 3
    obtain ⟨-, -, -, passed⟩ := ends 3 (by decide)
    exact ((passed (by decide) (by decide)).2 ['€'] (by decide)).1
  · obtain ⟨-, -, ends⟩ :=
      text_is_taken_after_its_count_has_passed ⟨[4, 0, 0, 0], 0⟩ 3
    exact (ends 4 (by decide)).1 (by decide)
  · obtain ⟨-, -, ends⟩ :=
      text_is_taken_after_its_count_has_passed
        ⟨[3, 0, 0, 0, 0xed, 0xa0, 0x80], 0⟩ 3
    obtain ⟨-, -, -, passed⟩ := ends 3 (by decide)
    refine (passed (by decide) (by decide)).1 ?_
    intro characters isText
    have refused : textOfBytes? [0xed, 0xa0, 0x80] = none := by
      decide +kernel
    have value := textOfBytes?_utf8 characters
    rw [isText] at value
    cases refused.symm.trans value

end RelayFrame.Stream
