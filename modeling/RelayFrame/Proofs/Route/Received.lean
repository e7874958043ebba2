import RelayFrame.Packet.Admission
import RelayFrame.Proofs.Net.NormalSlots

/-!
# Routes between addresses that were received

A slot and a party are two views of an address.  The slot marks the family and
pads the host to one width; the party tells families apart by the length of
the host alone.  Both lose the flow label and the scope, both fold the hosts
that stand for IPv4 hosts, and neither loses anything else, so they make the
same addresses equal.  Whoever got both ends of a route out of slots therefore
has the route of whoever wrote them.
-/

namespace RelayFrame

theorem Ipv4.octets_injective
    {host other : Ipv4} (same : host.octets = other.octets) :
    host = other := by
  cases host
  cases other
  simpa [octets] using same

theorem Ipv6.octets_injective
    {host other : Ipv6} (same : host.octets = other.octets) :
    host = other := by
  have sameGroup {group otherGroup : UInt16}
      (high : highOctet group = highOctet otherGroup)
      (low : lowOctet group = lowOctet otherGroup) : group = otherGroup := by
    rw [← groupOf_highOctet_lowOctet group, high, low,
      groupOf_highOctet_lowOctet]
  cases host
  cases other
  simp only [octets, groups, List.flatMap_cons, List.flatMap_nil,
    List.cons_append, List.nil_append, List.append_nil, List.cons.injEq]
    at same
  grind

namespace Address

theorem port_canonical (address : Address) :
    address.canonical.port = address.port := by
  cases address with
  | absent => rfl
  | ipv4 host port => rfl
  | ipv6 host port flow scope =>
      rw [canonical]
      cases host.mapped? <;> rfl

/-- The octets of the host and the port are all that an address has besides its
flow label and its scope. -/
theorem withoutExtras_eq_iff {address other : Address} :
    address.withoutExtras = other.withoutExtras ↔
      address.hostOctets = other.hostOctets ∧ address.port = other.port := by
  constructor
  · intro same
    have sameOctets := congrArg hostOctets same
    have samePort := congrArg port same
    cases address <;> cases other <;> exact ⟨sameOctets, samePort⟩
  · rintro ⟨sameOctets, samePort⟩
    have sameLength := congrArg List.length sameOctets
    cases address with
    | absent =>
        cases other with
        | absent => rfl
        | ipv4 host port => cases sameLength
        | ipv6 host port flow scope => cases sameLength
    | ipv4 host port =>
        cases other with
        | absent => cases sameLength
        | ipv4 otherHost otherPort =>
            cases Ipv4.octets_injective sameOctets
            exact congrArg (ipv4 host) samePort
        | ipv6 otherHost otherPort flow scope => cases sameLength
    | ipv6 host port flow scope =>
        cases other with
        | absent => cases sameLength
        | ipv4 otherHost otherPort => cases sameLength
        | ipv6 otherHost otherPort otherFlow otherScope =>
            cases Ipv6.octets_injective sameOctets
            exact congrArg (ipv6 host · 0 0) samePort

theorem travelled_travelled (address : Address) :
    address.travelled.travelled = address.travelled := by
  rw [travelled, canonical_travelled, travelled]
  cases address.canonical <;> rfl

end Address

/-! ## What slots and parties make equal -/

/-- Two addresses share their slot when they are the same once received. -/
theorem Slot.encode_eq_iff {address other : Address} :
    encode address = encode other ↔ address.travelled = other.travelled := by
  constructor
  · intro same
    rw [← decode_encode address, same, decode_encode]
  · intro same
    rw [← encode_travelled address, same, encode_travelled]

/-- Two addresses make the same party when they are the same once received. -/
theorem Party.ofAddress_eq_iff {address other : Address} :
    ofAddress address = ofAddress other ↔
      address.travelled = other.travelled := by
  rw [Address.travelled, Address.travelled, Address.withoutExtras_eq_iff,
    Address.port_canonical, Address.port_canonical, ofAddress, ofAddress,
    Party.mk.injEq]

theorem Route.between_decode_encode (sender receiver : Address) :
    between (Slot.decode (Slot.encode sender))
        (Slot.decode (Slot.encode receiver)) =
      between sender receiver := by
  have sameParty (address : Address) :
      Party.ofAddress (Slot.decode (Slot.encode address)) =
        Party.ofAddress address := by
    rw [Slot.decode_encode, Party.ofAddress_eq_iff,
      Address.travelled_travelled]
  rw [between, sameParty, sameParty, between]

/-- Two addresses have the same slot if and only if they are the same party,
which is when their canonical forms differ in flow label and scope at most.
The route between two addresses that came out of slots is the route between
those that went in, and so stamps and lets in the same packets. -/
theorem received_addresses_make_the_same_route :
    (∀ address other : Address,
      (Slot.encode address = Slot.encode other ↔
          Party.ofAddress address = Party.ofAddress other) ∧
        (Party.ofAddress address = Party.ofAddress other ↔
          address.canonical.withoutExtras =
            other.canonical.withoutExtras)) ∧
      ∀ sender receiver : Address,
        let received :=
          Route.between (Slot.decode (Slot.encode sender))
            (Slot.decode (Slot.encode receiver))
        let original := Route.between sender receiver
        received = original ∧
          ∀ magic packet : Bytes,
            received.stamp magic packet = original.stamp magic packet ∧
              received.accepts magic packet =
                original.accepts magic packet := by
  refine ⟨fun address other => ⟨?_, ?_⟩, fun sender receiver => ?_⟩
  · rw [Slot.encode_eq_iff, Party.ofAddress_eq_iff]
  · exact Party.ofAddress_eq_iff
  · intro received original
    have same : received = original :=
      Route.between_decode_encode sender receiver
    rw [same]
    exact ⟨rfl, fun _ _ => ⟨rfl, rfl⟩⟩

end RelayFrame
