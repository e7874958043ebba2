import RelayFrame.Proofs.Bytes.LittleEndian
import RelayFrame.Proofs.Hash.FourBytes
import RelayFrame.Proofs.Packet.Stamping

/-!
# One tag, one length

A Chonkle covers the magic first, then both ends of the route, then the length
of the packet, and is read off the state that the three leave one after the
other.  So the length is the last thing that it covers.  Packets of
different lengths therefore never share a Chonkle on one route, and a packet
that was let in is not let in any more once bytes are cut off it or added to
it, unless its Chonkle is replaced as well.
-/

namespace RelayFrame.Route

open Packet

/-! ## What a Chonkle covers, part by part -/

def endpoints (route : Route) : Bytes :=
  route.sender.message ++ route.receiver.message

theorem message_eq (route : Route) (length : UInt32) :
    route.message length =
      route.endpoints ++ littleEndian 4 length.toNat := rfl

/-- The length is absorbed last, from a state that does not depend on it. -/
theorem chonkle_eq (route : Route) (magic : Bytes) (length : UInt32) :
    route.chonkle magic length =
      Chonkle.scatter
        (Hash.absorbAll
          (Hash.absorbAll (Hash.hash magic) route.endpoints)
          (littleEndian 4 length.toNat)) := by
  rw [chonkle, Chonkle.ofMessage, message_eq, Hash.hash, Hash.hash,
    Hash.absorbAll_append, Hash.absorbAll_append]

/-- The tag of a packet that was let in, and the length it is for. -/
theorem exists_length_of_accepts
    {route : Route} {magic packet : Bytes}
    (accepted : route.accepts magic packet = true) :
    ∃ length : UInt32,
      length.toNat = packet.length ∧
        chonkleBytes packet = (route.chonkle magic length).toList := by
  obtain ⟨⟨-, fits⟩, chonkle, -⟩ := (accepts_iff _ _ _).mp accepted
  exact ⟨_, UInt32.toNat_ofNat_of_lt' fits, chonkle⟩

/-! ## Lengths -/

theorem littleEndian_toNat_injective
    {first second : UInt32}
    (same : littleEndian 4 first.toNat = littleEndian 4 second.toNat) :
    first = second := by
  have values := congrArg ofLittleEndian same
  rw [ofLittleEndian_littleEndian first.toNat_lt,
    ofLittleEndian_littleEndian second.toNat_lt] at values
  exact UInt32.toNat_inj.mp values

/-- On one route and with one magic, no two lengths share their Chonkle. -/
theorem chonkle_injective
    {route : Route} {magic : Bytes} {first second : UInt32}
    (same : route.chonkle magic first = route.chonkle magic second) :
    first = second := by
  rw [chonkle_eq, chonkle_eq] at same
  exact littleEndian_toNat_injective <|
    Hash.eq_of_scatter_absorbAll_four (length_littleEndian 4 _)
      (length_littleEndian 4 _) same

/-- The Chonkles of different lengths differ, and of two packets of different
lengths that carry the same bytes where the Chonkle stands at most one is let
in. -/
theorem chonkle_tells_lengths_apart
    (route : Route) (magic : Bytes) :
    (∀ first second : UInt32, first ≠ second →
      route.chonkle magic first ≠ route.chonkle magic second) ∧
      ∀ first second : Bytes,
        first.length ≠ second.length →
        chonkleBytes first = chonkleBytes second →
        ¬ (route.accepts magic first = true ∧
          route.accepts magic second = true) := by
  constructor
  · intro first second different same
    exact different (chonkle_injective same)
  · rintro first second different sameBytes ⟨firstAccepted, secondAccepted⟩
    obtain ⟨firstLength, firstValue, firstChonkle⟩ :=
      exists_length_of_accepts firstAccepted
    obtain ⟨secondLength, secondValue, secondChonkle⟩ :=
      exists_length_of_accepts secondAccepted
    rw [sameBytes, secondChonkle, Vector.toList_inj] at firstChonkle
    have sameLength := chonkle_injective firstChonkle
    exact different (by rw [← firstValue, ← secondValue, sameLength])

theorem extended_packet_is_refused :
    let route : Route := ⟨⟨[1, 2, 3, 4], 1000⟩, ⟨[5, 6, 7, 8], 2000⟩⟩
    let packet := genuine route [9, 8, 7] 0x01 [0xaa]
    route.chonkle [9, 8, 7] 19 ≠ route.chonkle [9, 8, 7] 20 ∧
      route.accepts [9, 8, 7] packet = true ∧
      route.accepts [9, 8, 7] (packet ++ [0]) = false := by
  intro route packet
  obtain ⟨tags, accepted⟩ := chonkle_tells_lengths_apart route [9, 8, 7]
  have passes : route.accepts [9, 8, 7] packet = true := by
    decide +kernel
  refine ⟨tags 19 20 (by decide), passes, ?_⟩
  have refused := accepted packet (packet ++ [0]) (by simp) (by decide +kernel)
  rw [passes] at refused
  simpa using refused

end RelayFrame.Route
