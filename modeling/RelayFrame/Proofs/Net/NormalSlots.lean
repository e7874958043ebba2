import Mathlib.Tactic.IntervalCases
import RelayFrame.Proofs.Net.Travel

/-!
# Slots in normal form

Many slots hold one address: an unknown family hides whatever follows it, the
bytes behind a short host are not looked at, and a host that stands for an IPv4
host can come in either family.  Writing an address that was read picks one
slot among them, and picks it again the second time.  The slots that are picked
can be told by their bytes.
-/

namespace RelayFrame

theorem groupOf_inj {high low otherHigh otherLow : UInt8} :
    groupOf high low = groupOf otherHigh otherLow ↔
      high = otherHigh ∧ low = otherLow := by
  constructor
  · intro same
    have sameHigh := congrArg highOctet same
    have sameLow := congrArg lowOctet same
    rw [highOctet_groupOf, highOctet_groupOf] at sameHigh
    rw [lowOctet_groupOf, lowOctet_groupOf] at sameLow
    exact ⟨sameHigh, sameLow⟩
  · rintro ⟨rfl, rfl⟩
    rfl

theorem groupOf_eq_zero_iff {high low : UInt8} :
    groupOf high low = 0 ↔ high = 0 ∧ low = 0 :=
  @groupOf_inj _ _ 0 0

theorem groupOf_eq_ones_iff {high low : UInt8} :
    groupOf high low = 0xffff ↔ high = 0xff ∧ low = 0xff :=
  @groupOf_inj _ _ 0xff 0xff

/-! ## Canonical addresses -/

namespace Address

theorem canonical_canonical (address : Address) :
    address.canonical.canonical = address.canonical := by
  cases address with
  | absent => rfl
  | ipv4 host port => rfl
  | ipv6 host port flow scope =>
      rw [canonical]
      cases mapped : host.mapped? with
      | some inner => rfl
      | none => simp only [canonical, mapped]

theorem canonical_withoutExtras (address : Address) :
    address.withoutExtras.canonical = address.canonical.withoutExtras := by
  cases address with
  | absent => rfl
  | ipv4 host port => rfl
  | ipv6 host port flow scope =>
      rw [withoutExtras, canonical, canonical]
      cases host.mapped? <;> rfl

theorem canonical_travelled (address : Address) :
    address.travelled.canonical = address.travelled := by
  rw [travelled, canonical_withoutExtras, canonical_canonical]

end Address

namespace Slot

theorem ofCanonical_withoutExtras (address : Address) :
    ofCanonical address.withoutExtras = ofCanonical address := by
  cases address <;> rfl

/-- Travelling once more makes no difference to the slot. -/
theorem encode_travelled (address : Address) :
    encode address.travelled = encode address := by
  rw [encode, Address.canonical_travelled, Address.travelled,
    ofCanonical_withoutExtras, encode]

/-! ## Writing what was read -/

def renewed (slot : Slot) : Slot :=
  encode (decode slot)

theorem renewed_renewed (slot : Slot) :
    slot.renewed.renewed = slot.renewed := by
  rw [renewed, renewed, decode_encode, encode_travelled]

/-- Whether the host octets of a slot begin as those that stand for an IPv4
host do: with ten zeros and twice 0xff. -/
def HoldsMapped (slot : Slot) : Prop :=
  (slot.toList.drop 1).take 12 = List.replicate 10 0 ++ [0xff, 0xff]
deriving Decidable

/-- Whether a slot holds nothing but zeros, or an IPv4 address with nothing but
zeros behind it, or an IPv6 address whose host does not stand for an IPv4
host. -/
def IsNormal (slot : Slot) : Prop :=
  slot.toList = List.replicate size 0 ∨
    slot.toList.head? = some ipv4Family ∧
        slot.toList.drop 7 = List.replicate 12 0 ∨
      slot.toList.head? = some ipv6Family ∧ ¬ slot.HoldsMapped
deriving Decidable

theorem exists_bytes (slot : Slot) :
    ∃ s0 s1 s2 s3 s4 s5 s6 s7 s8 s9 s10 s11 s12 s13 s14 s15 s16 s17 s18,
      slot =
        #v[s0, s1, s2, s3, s4, s5, s6, s7, s8, s9, s10, s11, s12, s13, s14,
          s15, s16, s17, s18] := by
  refine ⟨slot[0], slot[1], slot[2], slot[3], slot[4], slot[5], slot[6],
    slot[7], slot[8], slot[9], slot[10], slot[11], slot[12], slot[13],
    slot[14], slot[15], slot[16], slot[17], slot[18],
    Vector.ext fun index inside => ?_⟩
  interval_cases index <;> rfl

section Families

variable {slot : Slot}

/-- A family that is not known is read as no address. -/
theorem renewed_of_unknown
    (notIpv4 : slot.toList.head? ≠ some ipv4Family)
    (notIpv6 : slot.toList.head? ≠ some ipv6Family) :
    slot.renewed.toList = List.replicate size 0 := by
  have front : slot.toList.head? = some slot[0] := by
    obtain ⟨_, _, _, _, _, _, _, _, _, _, _, _, _, _, _, _, _, _, _, rfl⟩ :=
      exists_bytes slot
    rfl
  rw [front] at notIpv4 notIpv6
  rw [renewed, decode, if_neg (fun same => notIpv4 (congrArg some same)),
    if_neg (fun same => notIpv6 (congrArg some same))]
  rfl

theorem renewed_eq_iff_of_ipv4 (family : slot.toList.head? = some ipv4Family) :
    slot.renewed = slot ↔ slot.toList.drop 7 = List.replicate 12 0 := by
  obtain ⟨_, _, _, _, _, _, _, _, _, _, _, _, _, _, _, _, _, _, _, rfl⟩ :=
    exists_bytes slot
  cases family
  rw [eq_comm]
  simp [renewed, decode, encode, Address.canonical, ofCanonical,
    List.replicate]

/-- An IPv6 slot keeps all its bytes as long as its host is not folded, and
its bytes tell whether the host can be folded. -/
theorem exists_decode_of_ipv6
    (family : slot.toList.head? = some ipv6Family) :
    ∃ host port,
      decode slot = .ipv6 host port 0 0 ∧
        ofCanonical (.ipv6 host port 0 0) = slot ∧
        (host.mapped? = none ↔ ¬ slot.HoldsMapped) := by
  obtain ⟨_, _, _, _, _, _, _, _, _, _, _, _, _, _, _, _, _, _, _, rfl⟩ :=
    exists_bytes slot
  cases family
  refine ⟨_, _, rfl, ?_, ?_⟩
  · simp [ofCanonical]
  · simp [HoldsMapped, Ipv6.mapped?, groupOf_eq_zero_iff, groupOf_eq_ones_iff,
      and_assoc]

/-- An IPv6 slot is kept unless its host stands for an IPv4 host and is written
as one. -/
theorem renewed_eq_iff_of_ipv6 (family : slot.toList.head? = some ipv6Family) :
    slot.renewed = slot ↔ ¬ slot.HoldsMapped := by
  obtain ⟨host, port, decoded, rewritten, notMapped⟩ :=
    exists_decode_of_ipv6 family
  rw [renewed, decoded, encode, ← notMapped, Address.canonical]
  cases mapped : host.mapped? with
  | none => exact iff_of_true rewritten rfl
  | some inner =>
      refine iff_of_false (fun same => ?_) (by simp)
      have folded : slot.toList.head? = some ipv4Family := by
        rw [← same]
        rfl
      rw [folded] at family
      exact absurd family (by decide)

end Families

theorem renewed_eq_iff (slot : Slot) :
    slot.renewed = slot ↔ slot.IsNormal := by
  constructor
  · intro same
    by_cases ipv4 : slot.toList.head? = some ipv4Family
    · exact .inr (.inl ⟨ipv4, (renewed_eq_iff_of_ipv4 ipv4).mp same⟩)
    by_cases ipv6 : slot.toList.head? = some ipv6Family
    · exact .inr (.inr ⟨ipv6, (renewed_eq_iff_of_ipv6 ipv6).mp same⟩)
    exact .inl (same ▸ renewed_of_unknown ipv4 ipv6)
  · rintro (zeros | ⟨ipv4, zerosBehind⟩ | ⟨ipv6, notMapped⟩)
    · have renewedZeros : slot.renewed.toList = List.replicate size 0 :=
        renewed_of_unknown (by rw [zeros]; decide) (by rw [zeros]; decide)
      exact Vector.toList_inj.mp (renewedZeros.trans zeros.symm)
    · exact (renewed_eq_iff_of_ipv4 ipv4).mpr zerosBehind
    · exact (renewed_eq_iff_of_ipv6 ipv6).mpr notMapped

/-- A slot with an IPv6 host that stands for an IPv4 host, and the slot it is
written to. -/
example :
    let mapped : Slot :=
      #v[2, 0, 0, 0, 0, 0, 0, 0, 0, 0, 0, 0xff, 0xff, 10, 1, 2, 3, 53, 0]
    mapped.renewed =
        #v[1, 10, 1, 2, 3, 53, 0, 0, 0, 0, 0, 0, 0, 0, 0, 0, 0, 0, 0] ∧
      ¬ mapped.IsNormal ∧ mapped.renewed.IsNormal := by
  decide

/-- What comes out of the slot of an address is its canonical form with flow
label and scope zero.  Of the address in any slot, a second way changes no
more than its family; the slot that it is written to is written again
unchanged, and the slots that are written again unchanged are those in normal
form. -/
theorem slots_settle_in_normal_form :
    (∀ address : Address,
      decode (encode address) = address.canonical.withoutExtras) ∧
      ∀ slot : Slot,
        decode (encode (decode slot)) = (decode slot).canonical ∧
          slot.renewed.renewed = slot.renewed ∧
          (slot.renewed = slot ↔ slot.IsNormal) := by
  refine ⟨decode_encode, fun slot => ⟨?_, ?_, ?_⟩⟩
  · rw [decode_encode, travelled_decode]
  · exact renewed_renewed slot
  · exact renewed_eq_iff slot

end Slot

end RelayFrame
