import RelayFrame.Packet.Build
import RelayFrame.Proofs.Stream.InPlace

/-!
# The parts of a packet

A byte string of at least the minimum length is, in one way only, a type byte,
a Chonkle, a payload and a Pittle.  Everything else about packets is said of
packets taken apart like this, so that no later proof counts offsets.
-/

namespace RelayFrame.Packet

open RelayFrame.Stream

def assemble (type : UInt8) (chonkle : Chonkle) (body : Bytes)
    (pittle : Pittle) : Bytes :=
  type :: (chonkle.toList ++ body ++ pittle.toList)

section Assembled

variable (type : UInt8) (chonkle : Chonkle) (body : Bytes) (pittle : Pittle)

@[simp]
theorem length_assemble :
    (assemble type chonkle body pittle).length =
      minimumLength + body.length := by
  simp only [assemble, List.length_cons, List.length_append,
    Vector.length_toList, minimumLength, payloadOffset, chonkleOffset,
    Chonkle.size, Pittle.size]
  omega

@[simp]
theorem head?_assemble :
    (assemble type chonkle body pittle).head? = some type := rfl

@[simp]
theorem chonkleBytes_assemble :
    chonkleBytes (assemble type chonkle body pittle) = chonkle.toList := by
  have width : chonkle.toList.length = Chonkle.size :=
    chonkle.length_toList
  simp only [chonkleBytes, chonkleOffset, assemble, List.drop_succ_cons,
    List.drop_zero, List.append_assoc]
  rw [← width]
  exact List.take_left

theorem pittleOffset_assemble :
    pittleOffset (assemble type chonkle body pittle) =
      payloadOffset + body.length := by
  simp only [pittleOffset, length_assemble, minimumLength]
  omega

private theorem assemble_eq_append :
    assemble type chonkle body pittle =
      (type :: (chonkle.toList ++ body)) ++ pittle.toList := by
  simp [assemble]

private theorem length_beforePittle :
    (type :: (chonkle.toList ++ body)).length =
      payloadOffset + body.length := by
  simp only [List.length_cons, List.length_append, Vector.length_toList,
    payloadOffset, chonkleOffset, Chonkle.size]
  omega

@[simp]
theorem pittleBytes_assemble :
    pittleBytes (assemble type chonkle body pittle) = pittle.toList := by
  rw [pittleBytes, pittleOffset_assemble, assemble_eq_append,
    ← length_beforePittle type chonkle body]
  exact List.drop_left

@[simp]
theorem payload?_assemble :
    payload? (assemble type chonkle body pittle) = some body := by
  have long :
      ¬ (assemble type chonkle body pittle).length < minimumLength := by
    rw [length_assemble]
    omega
  have before :
      (type :: chonkle.toList).length = payloadOffset := by
    simp [payloadOffset, chonkleOffset, Chonkle.size]
  rw [payload?, if_neg long, pittleOffset_assemble, assemble_eq_append,
    ← length_beforePittle type chonkle body, List.take_left,
    ← List.cons_append, ← before, List.drop_left]

end Assembled

/-- A packet determines its parts. -/
theorem assemble_inj
    {type otherType : UInt8} {chonkle otherChonkle : Chonkle}
    {body otherBody : Bytes} {pittle otherPittle : Pittle} :
    assemble type chonkle body pittle =
        assemble otherType otherChonkle otherBody otherPittle ↔
      type = otherType ∧ chonkle = otherChonkle ∧ body = otherBody ∧
        pittle = otherPittle := by
  constructor
  · intro same
    refine ⟨?_, ?_, ?_, ?_⟩
    · simpa using congrArg List.head? same
    · simpa [Vector.toList_inj] using congrArg chonkleBytes same
    · simpa using congrArg payload? same
    · simpa [Vector.toList_inj] using congrArg pittleBytes same
  · rintro ⟨rfl, rfl, rfl, rfl⟩
    rfl

private theorem exists_vector_toList
    (width : Nat) (bytes : Bytes) (fits : bytes.length = width) :
    ∃ vector : Vector UInt8 width, vector.toList = bytes :=
  ⟨⟨bytes.toArray, by simpa using fits⟩, by simp⟩

/-- Every byte string that is long enough has the four parts. -/
theorem exists_assemble_of_minimumLength_le
    {packet : Bytes} (long : minimumLength ≤ packet.length) :
    ∃ type chonkle body pittle,
      packet = assemble type chonkle body pittle := by
  simp only [minimumLength, payloadOffset, chonkleOffset, Chonkle.size,
    Pittle.size] at long
  cases packet with
  | nil => simp at long
  | cons type rest =>
      simp only [List.length_cons] at long
      obtain ⟨chonkle, chonkleEquality⟩ :=
        exists_vector_toList 15 (rest.take 15)
          (by rw [List.length_take]; omega)
      obtain ⟨pittle, pittleEquality⟩ :=
        exists_vector_toList 2 (rest.drop (rest.length - 2))
          (by rw [List.length_drop]; omega)
      refine
        ⟨type, chonkle, (rest.take (rest.length - 2)).drop 15, pittle, ?_⟩
      have front :
          rest.take 15 ++ (rest.take (rest.length - 2)).drop 15 =
            rest.take (rest.length - 2) := by
        have shorter :
            rest.take 15 = (rest.take (rest.length - 2)).take 15 := by
          rw [List.take_take]
          congr 1
          omega
        rw [shorter, List.take_append_drop]
      rw [assemble, chonkleEquality, pittleEquality, front,
        List.take_append_drop]

/-- The writer lays the parts one behind the other, with zeros for both tags.
-/
theorem blank_eq_assemble (type : UInt8) (body : Bytes) :
    blank type body =
      assemble type (Vector.replicate 15 0) body (Vector.replicate 2 0) := by
  let entries := blankEntries type body
  have encoded :
      encodeAll (itemsOf entries) =
        assemble type (Vector.replicate 15 0) body (Vector.replicate 2 0) := by
    simp [entries, blankEntries, itemsOf, encodeAll, Item.encode, assemble,
      littleEndian, Chonkle.size, Pittle.size]
  have size : totalSize (itemsOf entries) = minimumLength + body.length := by
    rw [← length_encodeAll, encoded, length_assemble]
  have within : ∀ entry ∈ entries, entry.WithinLimit := by
    intro entry member value isText
    simp only [entries, blankEntries, List.mem_cons, List.not_mem_nil,
      or_false] at member
    rcases member with rfl | rfl | rfl | rfl <;> cases isText
  have wrote :=
    Output.writeAll_of_split within [] []
      (size ▸ List.length_replicate :
        (List.replicate (minimumLength + body.length) (0 : UInt8)).length =
          totalSize (itemsOf entries))
  simp only [List.nil_append, List.append_nil, List.length_nil] at wrote
  rw [blank, Output.ofBuffer, Writer.run_forM_entry wrote]
  exact encoded

end RelayFrame.Packet
