/-!
# Byte strings

Everything on the wire is a finite string of bytes, held as a list.  A patch
can be laid over part of a string: fixed buffers are filled and packets are
stamped that way, and neither ever changes length.  A number of a fixed width
is written as that many bytes, low byte first.
-/

namespace RelayFrame

/-- A byte string, first byte first. -/
abbrev Bytes := List UInt8

/-! ## Patches -/

/-- The bytes with `patch` laid over them from `offset` on. -/
def splice (bytes : Bytes) (offset : Nat) (patch : Bytes) : Bytes :=
  bytes.take offset ++ patch ++ bytes.drop (offset + patch.length)

theorem length_splice
    {bytes patch : Bytes} {offset : Nat}
    (fits : offset + patch.length ≤ bytes.length) :
    (splice bytes offset patch).length = bytes.length := by
  simp only [splice, List.length_append, List.length_take, List.length_drop]
  omega

/-- A patch that is as long as what it covers takes exactly its place. -/
theorem splice_append
    {patch middle : Bytes} (sameLength : patch.length = middle.length)
    (front back : Bytes) :
    splice (front ++ middle ++ back) front.length patch =
      front ++ patch ++ back := by
  rw [splice, sameLength, ← List.length_append, List.drop_left,
    List.append_assoc front middle back, List.take_left]

@[simp]
theorem splice_nil (bytes : Bytes) (offset : Nat) :
    splice bytes offset [] = bytes := by
  simp [splice]

section Splice

variable {bytes patch : Bytes} {offset : Nat}

theorem take_splice (inside : offset ≤ bytes.length) :
    (splice bytes offset patch).take offset = bytes.take offset := by
  rw [splice, List.append_assoc]
  exact List.take_left' (List.length_take_of_le inside)

theorem drop_splice (inside : offset ≤ bytes.length) :
    (splice bytes offset patch).drop offset =
      patch ++ bytes.drop (offset + patch.length) := by
  rw [splice, List.append_assoc]
  exact List.drop_left' (List.length_take_of_le inside)

/-- A patch can be laid in two parts, one behind the other. -/
theorem splice_splice
    {more : Bytes} (fits : offset + patch.length ≤ bytes.length) :
    splice (splice bytes offset patch) (offset + patch.length) more =
      splice bytes offset (patch ++ more) := by
  have inside : offset ≤ bytes.length := by omega
  have front :
      (splice bytes offset patch).take (offset + patch.length) =
        bytes.take offset ++ patch := by
    rw [splice]
    apply List.take_left'
    rw [List.length_append, List.length_take_of_le inside]
  have back (count : Nat) :
      (splice bytes offset patch).drop (offset + patch.length + count) =
        bytes.drop (offset + patch.length + count) := by
    rw [Nat.add_assoc, ← List.drop_drop, drop_splice inside, ← List.drop_drop,
      List.drop_left, List.drop_drop, Nat.add_assoc]
  rw [splice, front, back]
  simp only [splice, List.length_append, List.append_assoc, Nat.add_assoc]

end Splice

/-! ## Numbers -/

/-- The `width` low bytes of a number, low byte first. -/
def littleEndian : (width : Nat) → Nat → Bytes
  | 0, _ => []
  | width + 1, number =>
      UInt8.ofNat number :: littleEndian width (number / 256)

/-- The number whose low byte comes first. -/
def ofLittleEndian : Bytes → Nat
  | [] => 0
  | low :: rest => low.toNat + 256 * ofLittleEndian rest

@[simp]
theorem length_littleEndian (width number : Nat) :
    (littleEndian width number).length = width := by
  induction width generalizing number with
  | zero => rfl
  | succ width inductionHypothesis =>
      simp [littleEndian, inductionHypothesis]

end RelayFrame
