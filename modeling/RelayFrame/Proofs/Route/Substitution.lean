import RelayFrame.Proofs.Hash.LowByte
import RelayFrame.Proofs.Route.Lengths
import RelayFrame.Proofs.Tag.Fields

/-!
# Substitution of one byte

Byte strings that differ in one place leave states with different low bytes:
the places before it lead to one state, the place itself takes the low bytes
apart, and no later step brings them together again.  The fourth byte of a
Chonkle is the low byte of the hash, so the tags differ there.
-/

namespace RelayFrame

/-- Two byte strings of one length that differ at exactly one offset. -/
def OneByteApart (first second : Bytes) : Prop :=
  first.length = second.length ∧
    ∃ offset, ∀ index : Nat, first[index]? ≠ second[index]? ↔ index = offset

/-- The strings are the same before and behind that byte. -/
theorem OneByteApart.exists_split
    {first second : Bytes} (apart : OneByteApart first second) :
    ∃ front firstByte secondByte back,
      first = front ++ firstByte :: back ∧
        second = front ++ secondByte :: back ∧
        firstByte ≠ secondByte := by
  obtain ⟨sameLength, offset, differs⟩ := apart
  have differsHere : first[offset]? ≠ second[offset]? :=
    (differs offset).mpr rfl
  have agrees (index : Nat) (elsewhere : index ≠ offset) :
      first[index]? = second[index]? := by
    by_contra different
    exact elsewhere ((differs index).mp different)
  have firstInside : offset < first.length := by
    by_contra outside
    apply differsHere
    rw [List.getElem?_eq_none (by omega), List.getElem?_eq_none (by omega)]
  have secondInside : offset < second.length := sameLength ▸ firstInside
  have sameFront : first.take offset = second.take offset := by
    apply List.ext_getElem?
    intro index
    rw [List.getElem?_take, List.getElem?_take]
    split
    · exact agrees index (by omega)
    · rfl
  have sameBack : first.drop (offset + 1) = second.drop (offset + 1) := by
    apply List.ext_getElem?
    intro index
    rw [List.getElem?_drop, List.getElem?_drop]
    exact agrees _ (by omega)
  refine
    ⟨first.take offset, first[offset], second[offset],
      first.drop (offset + 1), ?_, ?_, ?_⟩
  · rw [← List.drop_eq_getElem_cons, List.take_append_drop]
  · rw [sameFront, sameBack, ← List.drop_eq_getElem_cons,
      List.take_append_drop]
  · intro same
    apply differsHere
    rw [List.getElem?_eq_getElem firstInside,
      List.getElem?_eq_getElem secondInside, same]

/-- Equal bytes after both strings leave them one byte apart. -/
theorem OneByteApart.append_right
    {first second : Bytes} (apart : OneByteApart first second)
    (rest : Bytes) : OneByteApart (first ++ rest) (second ++ rest) := by
  obtain ⟨sameLength, offset, differs⟩ := apart
  refine
    ⟨by rw [List.length_append, List.length_append, sameLength],
      offset, fun index => ?_⟩
  rw [← differs index, List.getElem?_append, List.getElem?_append,
    ← sameLength]
  split
  · rfl
  · have outside : first[index]? = second[index]? := by
      rw [List.getElem?_eq_none (by omega), List.getElem?_eq_none (by omega)]
    simp [outside]

namespace Hash

/-- The low byte of the hash tells strings apart that differ in one byte. -/
theorem toUInt8_hash_ne_of_oneByteApart
    {first second : Bytes} (apart : OneByteApart first second) :
    (hash first).toUInt8 ≠ (hash second).toUInt8 := by
  obtain ⟨front, firstByte, secondByte, back, rfl, rfl, different⟩ :=
    apart.exists_split
  rw [hash, hash, absorbAll_append, absorbAll_append,
    toUInt8_absorbAll _ (firstByte :: back),
    toUInt8_absorbAll _ (secondByte :: back)]
  intro same
  exact different (absorbLow_byte_injective (absorbAllLow_injective same))

end Hash

namespace Route

open Packet

theorem chonkle_three_ne_of_oneByteApart
    {route other : Route} {magic otherMagic : Bytes}
    {length otherLength : UInt32}
    (apart :
      OneByteApart (magic ++ route.message length)
        (otherMagic ++ other.message otherLength)) :
    (route.chonkle magic length)[3] ≠
      (other.chonkle otherMagic otherLength)[3] := by
  rw [chonkle, chonkle, Chonkle.ofMessage, Chonkle.ofMessage,
    Chonkle.scatter_three, Chonkle.scatter_three]
  exact Hash.toUInt8_hash_ne_of_oneByteApart apart

/-- When what two Chonkles cover differs in one byte, the Chonkles differ, in
their fourth byte if nowhere else.  So a packet is not let in both with a
magic and a route and with one byte of the magic, of a host or of a port
replaced. -/
theorem one_byte_substitution_is_detected :
    (∀ (route other : Route) (magic otherMagic : Bytes)
      (length otherLength : UInt32),
      OneByteApart (magic ++ route.message length)
          (otherMagic ++ other.message otherLength) →
        route.chonkle magic length ≠ other.chonkle otherMagic otherLength ∧
          (route.chonkle magic length)[3] ≠
            (other.chonkle otherMagic otherLength)[3]) ∧
      ∀ (route other : Route) (magic otherMagic packet : Bytes),
        OneByteApart
            (magic ++ (route.sender.message ++ route.receiver.message))
            (otherMagic ++ (other.sender.message ++ other.receiver.message)) →
          ¬ (route.accepts magic packet = true ∧
            other.accepts otherMagic packet = true) := by
  constructor
  · intro route other magic otherMagic length otherLength apart
    have differs := chonkle_three_ne_of_oneByteApart apart
    refine ⟨?_, differs⟩
    intro same
    exact differs (by rw [same])
  · rintro route other magic otherMagic packet apart
      ⟨accepted, otherAccepted⟩
    obtain ⟨length, lengthValue, chonkle⟩ :=
      exists_length_of_accepts accepted
    obtain ⟨otherLength, otherValue, otherChonkle⟩ :=
      exists_length_of_accepts otherAccepted
    have sameLength : length = otherLength :=
      UInt32.toNat_inj.mp (lengthValue.trans otherValue.symm)
    subst sameLength
    have coveredApart :
        OneByteApart (magic ++ route.message length)
          (otherMagic ++ other.message length) := by
      rw [message_eq, message_eq, ← List.append_assoc, ← List.append_assoc]
      exact apart.append_right _
    apply chonkle_three_ne_of_oneByteApart coveredApart
    rw [chonkle, Vector.toList_inj] at otherChonkle
    rw [otherChonkle]

theorem flipped_host_byte_is_detected :
    let receiver : Party := ⟨[5, 6, 7, 8], 2000⟩
    let route : Route := ⟨⟨[1, 2, 3, 4], 1000⟩, receiver⟩
    let other : Route := ⟨⟨[1, 2, 3, 5], 1000⟩, receiver⟩
    let packet := genuine route [9, 8, 7] 0x01 [0xaa]
    route.chonkle [9, 8, 7] 19 ≠ other.chonkle [9, 8, 7] 19 ∧
      route.accepts [9, 8, 7] packet = true ∧
      other.accepts [9, 8, 7] packet = false := by
  intro receiver route other packet
  obtain ⟨tags, accepted⟩ := one_byte_substitution_is_detected
  have hostsApart :
      OneByteApart [9, 8, 7, 1, 2, 3, 4] [9, 8, 7, 1, 2, 3, 5] := by
    refine ⟨rfl, 6, fun index => ?_⟩
    rcases index with _ | _ | _ | _ | _ | _ | _ | index <;> simp
  have apart (rest : Bytes) := hostsApart.append_right rest
  have differs :=
    tags route other [9, 8, 7] [9, 8, 7] 19 19 (apart _)
  have refused :=
    accepted route other [9, 8, 7] [9, 8, 7] packet (apart _)
  have passes : route.accepts [9, 8, 7] packet = true := by
    decide +kernel
  rw [passes] at refused
  exact ⟨differs.1, passes, by simpa using refused⟩

end Route

end RelayFrame
