import RelayFrame.Proofs.Packet.Duality

/-!
# The two checks on genuine packets

The bands of the first check are wide enough for every tag.  So on packets
that the second check lets in, the first one looks at nothing but the type,
and a packet of a proper type passes it once it is stamped.
-/

namespace RelayFrame.Packet

/-- Right tags fill their bands, so only the type byte is left to check. -/
theorem hasPlausibleHeader_iff_head?_isType
    {route : Route} {magic packet : Bytes}
    (accepted : route.accepts magic packet = true) :
    hasPlausibleHeader packet = true ↔
      ∃ type, packet.head? = some type ∧ isType type = true := by
  obtain ⟨type, body, -, rfl⟩ :=
    (accepts_iff_exists_genuine route magic packet).mp accepted
  have head : (genuine route magic type body).head? = some type := rfl
  rw [hasPlausibleHeader_genuine, head]
  simp

theorem hasPlausibleHeader_imprint
    (route : Route) (magic : Bytes) {packet : Bytes}
    (long : minimumLength ≤ packet.length) {type : UInt8}
    (head : packet.head? = some type) :
    hasPlausibleHeader (route.imprint magic packet) = isType type := by
  obtain ⟨packetType, chonkle, body, pittle, rfl⟩ :=
    exists_assemble_of_minimumLength_le long
  rw [head?_assemble, Option.some.injEq] at head
  rw [imprint_assemble, hasPlausibleHeader_genuine, head]

/-- A packet that the second check lets in on some route passes the first
check exactly when its first byte is a packet type.  A packet whose first byte
is a packet type passes the first check after stamping, which succeeds for
every length that has room for the tags and that they can tell. -/
theorem accepted_packet_passes_header_iff_type :
    (∀ (route : Route) (magic packet : Bytes),
      route.accepts magic packet = true →
        (hasPlausibleHeader packet = true ↔
          ∃ type, packet.head? = some type ∧
            typeMinimum ≤ type ∧ type ≤ typeMaximum)) ∧
      ∀ (route : Route) (magic packet : Bytes) (type : UInt8),
        18 ≤ packet.length → packet.length ≤ 0xffffffff →
        packet.head? = some type →
        typeMinimum ≤ type → type ≤ typeMaximum →
          ∃ stamped, route.stamp magic packet = .ok stamped ∧
            hasPlausibleHeader stamped = true := by
  constructor
  · intro route magic packet accepted
    rw [hasPlausibleHeader_iff_head?_isType accepted]
    simp only [isType_iff]
    rfl
  · intro route magic packet type long fits head atLeast atMost
    have valid : isType type = true :=
      (isType_iff type).mpr ⟨atLeast, atMost⟩
    have stamped :
        route.stamp magic packet = .ok (route.imprint magic packet) :=
      stamp_eq_ok_iff.mpr ⟨long, Nat.lt_succ_of_le fits, rfl⟩
    refine ⟨_, stamped, ?_⟩
    rw [hasPlausibleHeader_imprint route magic long head, valid]

/-- On the shortest packets the tags meet, and a type byte above the range is
all that the first check finds. -/
theorem shortest_packet_passes_header_iff_type :
    let route : Route := ⟨⟨[], 0⟩, ⟨[5, 6, 7, 8], 2000⟩⟩
    let packet := genuine route [9, 8, 7] 0x64 []
    packet.length = 18 ∧ route.accepts [9, 8, 7] packet = true ∧
      hasPlausibleHeader packet = false ∧
      ∃ stamped,
        route.stamp [9, 8, 7] (0x63 :: List.replicate 17 0) = .ok stamped ∧
          hasPlausibleHeader stamped = true := by
  intro route packet
  obtain ⟨passes, stamps⟩ := accepted_packet_passes_header_iff_type
  have accepted : route.accepts [9, 8, 7] packet = true :=
    accepts_genuine route [9, 8, 7] 0x64 (by decide)
  have verdict := passes route [9, 8, 7] packet accepted
  have refused : ¬ hasPlausibleHeader packet = true := by
    rw [verdict]
    rintro ⟨type, head, -, atMost⟩
    have typeValue : 0x64 = type := Option.some.inj head
    rw [← typeValue] at atMost
    exact absurd atMost (by decide)
  exact
    ⟨length_assemble _ _ _ _, accepted, by simpa using refused,
      stamps route [9, 8, 7] (0x63 :: List.replicate 17 0) 0x63 (by decide)
        (by decide) rfl (by decide) (by decide)⟩

end RelayFrame.Packet
