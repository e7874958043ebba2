import RelayFrame.Proofs.Tag.ByteSum
import RelayFrame.Route

/-!
# What a Pittle shows of a route

The bytes of both hosts, of both ports and of the length of the packet are
added up, and nothing in the sum tells which of them came from where.  So a
Pittle does not depend on the order of these bytes, and least of all on which
end of the route sends.  There are 128 of them, and each one comes up at every
length.
-/

namespace RelayFrame.Route

/-- The sum of all bytes that a Pittle covers: those of both hosts, of both
ports and of the length. -/
def byteTotal (route : Route) (length : UInt32) : Nat :=
  byteSum route.sender.host + byteSum (littleEndian 2 route.sender.port.toNat) +
    byteSum route.receiver.host +
    byteSum (littleEndian 2 route.receiver.port.toNat) +
    byteSum (littleEndian 4 length.toNat)

theorem byteSum_message (route : Route) (length : UInt32) :
    byteSum (route.message length) = route.byteTotal length := by
  simp only [message, Party.message, byteSum_append, byteTotal, Nat.add_assoc]

/-- A Pittle depends on the total of the covered bytes only. -/
theorem pittle_eq_fold (route : Route) (length : UInt32) :
    route.pittle length =
      Pittle.fold (UInt16.ofNat (route.byteTotal length)) := by
  rw [pittle, Pittle.ofMessage, Pittle.checksum_eq, byteSum_message]

theorem pittle_eq_iff
    {first second : Route} {firstLength secondLength : UInt32} :
    first.pittle firstLength = second.pittle secondLength ↔
      ∀ bit < 8, bit ≠ 0 →
        (Pittle.crossed (first.byteTotal firstLength)).testBit bit =
          (Pittle.crossed (second.byteTotal secondLength)).testBit bit := by
  rw [pittle, pittle, Pittle.ofMessage_eq_iff, byteSum_message,
    byteSum_message]

theorem message_reversed_perm (route : Route) (length : UInt32) :
    (route.reversed.message length).Perm (route.message length) :=
  List.perm_append_comm.append_right _

/-- The routes from a host of ones give every tag. -/
theorem exists_pittle_eq_fold (sum : UInt16) (length : UInt32) :
    ∃ route : Route, route.pittle length = Pittle.fold sum := by
  let covered := byteSum (littleEndian 4 length.toNat)
  let host : Bytes := List.replicate (sum.toNat + 65535 * covered) 1
  let route : Route := ⟨⟨host, 0⟩, ⟨[], 0⟩⟩
  have hostSum : byteSum host = sum.toNat + 65535 * covered := by
    rw [byteSum_replicate]
    exact Nat.mul_one _
  have noPort : byteSum (littleEndian 2 (0 : UInt16).toNat) = 0 := rfl
  have noHost : byteSum [] = 0 := rfl
  have total : route.byteTotal length = sum.toNat + 65536 * covered := by
    rw [byteTotal, hostSum, noPort, noHost]
    omega
  refine ⟨route, ?_⟩
  rw [pittle_eq_fold, total]
  congr 1
  apply UInt16.toNat_inj.mp
  have bound := sum.toNat_lt
  rw [UInt16.toNat_ofNat']
  omega

theorem setOf_pittle :
    {tag | ∃ route length, Route.pittle route length = tag} =
      Set.range Pittle.fold := by
  apply Set.Subset.antisymm
  · rintro _ ⟨route, length, rfl⟩
    exact ⟨_, rfl⟩
  · rintro _ ⟨sum, rfl⟩
    obtain ⟨route, tag⟩ := exists_pittle_eq_fold sum 0
    exact ⟨route, 0, tag⟩

/-- A Pittle is a pair of an odd byte and the same byte under a fixed mask.  It
depends on nothing but the sum of the bytes modulo 65536, and shows bits one to
seven of its low byte crossed with its high byte.  There are 128 such tags.  The
order of the bytes has no part in them: a route and the way back have the same
ones. -/
theorem pittle_shows_seven_bits_of_the_byte_total :
    (∀ (route : Route) (length : UInt32), ∃ first : UInt8,
      first.toNat % 2 = 1 ∧
        route.pittle length = #v[first, first ^^^ 0x8e]) ∧
      (∀ (route other : Route) (length otherLength : UInt32),
        route.byteTotal length % 65536 =
            other.byteTotal otherLength % 65536 →
          route.pittle length = other.pittle otherLength) ∧
      (∀ (route other : Route) (length otherLength : UInt32),
        route.pittle length = other.pittle otherLength ↔
          ∀ bit < 8, bit ≠ 0 →
            (Pittle.crossed (route.byteTotal length)).testBit bit =
              (Pittle.crossed (other.byteTotal otherLength)).testBit bit) ∧
      {tag | ∃ route length, Route.pittle route length = tag}.ncard = 128 ∧
      (∀ (route other : Route) (length otherLength : UInt32),
        (route.message length).Perm (other.message otherLength) →
          route.pittle length = other.pittle otherLength) ∧
      ∀ (route : Route) (length : UInt32),
        route.reversed.pittle length = route.pittle length := by
  have reordered (route other : Route) (length otherLength : UInt32)
      (perm : (route.message length).Perm (other.message otherLength)) :
      route.pittle length = other.pittle otherLength := by
    rw [pittle_eq_fold, pittle_eq_fold, ← byteSum_message, ← byteSum_message,
      byteSum_eq_of_perm perm]
  refine ⟨?_, ?_, fun _ _ _ _ => pittle_eq_iff, ?_, reordered, ?_⟩
  · intro route length
    let sum := Pittle.checksum (route.message length)
    refine ⟨Pittle.first sum, Pittle.odd_first sum, ?_⟩
    rw [← Pittle.second_first]
    rfl
  · intro route other length otherLength same
    rw [pittle_eq_iff, ← Pittle.crossed_mod, same, Pittle.crossed_mod]
    exact fun _ _ _ => rfl
  · rw [setOf_pittle, Pittle.ncard_range_fold]
  · exact fun route length =>
      reordered _ _ _ _ (route.message_reversed_perm length)

/-- Raising a byte of a host by one can leave the tag as it is, and so can
adding bytes that sum up to 65536, or moving bytes from one end of the route to
the other. -/
theorem raised_and_moved_bytes_keep_the_pittle :
    let receiver : Party := ⟨[5, 6, 7, 8], 2000⟩
    let route : Route := ⟨⟨[1, 2, 3, 4], 1000⟩, receiver⟩
    let raised : Route := ⟨⟨[1, 2, 3, 5], 1000⟩, receiver⟩
    let padded : Route :=
      ⟨⟨[1, 2, 3, 4, 1] ++ List.replicate 257 255, 1000⟩, receiver⟩
    let moved : Route := ⟨⟨[1, 6, 3], 1000⟩, ⟨[4, 5, 2, 7, 8], 2000⟩⟩
    (route.byteTotal 20 = 506 ∧ raised.byteTotal 20 = 507 ∧
        padded.byteTotal 20 = 506 + 65536) ∧
      raised.pittle 20 = route.pittle 20 ∧
      padded.pittle 20 = route.pittle 20 ∧
      moved.pittle 20 = route.pittle 20 ∧
      route.reversed.pittle 20 = route.pittle 20 := by
  intro receiver route raised padded moved
  obtain ⟨-, ofTotal, iff, -, reordered, reversed⟩ :=
    pittle_shows_seven_bits_of_the_byte_total
  have total : route.byteTotal 20 = 506 := by decide
  have raisedTotal : raised.byteTotal 20 = 507 := by decide
  have paddedTotal : padded.byteTotal 20 = 506 + 65536 := by decide +kernel
  refine ⟨⟨total, raisedTotal, paddedTotal⟩, ?_, ?_, ?_, reversed route 20⟩
  · rw [iff, total, raisedTotal]
    decide
  · apply ofTotal
    rw [total, paddedTotal]
  · exact reordered _ _ _ _ (by decide)

end RelayFrame.Route
