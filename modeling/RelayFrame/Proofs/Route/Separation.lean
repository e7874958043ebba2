import RelayFrame.Proofs.Hash.Reachable
import RelayFrame.Proofs.Hash.ShortRuns
import RelayFrame.Proofs.Route.Lengths
import RelayFrame.Proofs.Tag.HiddenBits

/-!
# Which routes the tags tell apart

Both tags cover the ends of a route as one string, in which nothing marks where
the sender ends.  Routes with the same string are therefore let in
interchangeably, and there are such routes: from an IPv4 to an IPv6 host, and
from an IPv6 to an IPv4 host.  Routes whose strings differ are told apart by
some magic, since a magic can leave any state and only strings that lead every
state to the same state are not.
-/

namespace RelayFrame

/-! ## Parties and strings -/

theorem Party.message_injective
    {first second : Party} (same : first.message = second.message) :
    first = second := by
  obtain ⟨sameHost, samePort⟩ := List.append_inj' same (by simp)
  have values := congrArg ofLittleEndian samePort
  rw [ofLittleEndian_littleEndian first.port.toNat_lt,
    ofLittleEndian_littleEndian second.port.toNat_lt] at values
  cases first
  cases second
  rw [Party.mk.injEq]
  exact ⟨sameHost, UInt16.toNat_inj.mp values⟩

theorem Party.length_host
    {address : Address} (present : address.isAbsent = false) :
    (ofAddress address).host.length = 4 ∨
      (ofAddress address).host.length = 16 := by
  rw [ofAddress]
  cases address with
  | absent => cases present
  | ipv4 host port => exact Or.inl rfl
  | ipv6 host port flow scope =>
      rw [Address.canonical]
      cases host.mapped? with
      | none => exact Or.inr rfl
      | some inner => exact Or.inl rfl

theorem Party.length_message_le (address : Address) :
    (ofAddress address).message.length ≤ 18 := by
  have hostLength : address.canonical.hostOctets.length ≤ 16 := by
    cases address.canonical with
    | absent => exact Nat.zero_le 16
    | ipv4 host port => exact (by decide : 4 ≤ 16)
    | ipv6 host port flow scope => exact Nat.le_refl 16
  rw [message, List.length_append, length_littleEndian]
  exact Nat.add_le_add_right hostLength 2

namespace Route

open Packet Hash

variable {first second : Route}

/-- Where the sender ends decides the route of a string. -/
theorem eq_of_endpoints_eq
    (sameHostLength :
      first.sender.host.length = second.sender.host.length)
    (same : first.endpoints = second.endpoints) : first = second := by
  have sameLength :
      first.sender.message.length = second.sender.message.length := by
    simp [Party.message, sameHostLength]
  obtain ⟨sameSender, sameReceiver⟩ := List.append_inj same sameLength
  cases first
  cases second
  rw [Route.mk.injEq]
  exact
    ⟨Party.message_injective sameSender, Party.message_injective sameReceiver⟩

theorem message_eq_of_endpoints_eq
    (same : first.endpoints = second.endpoints) (length : UInt32) :
    first.message length = second.message length := by
  rw [message_eq, message_eq, same]

/-! ## Routes that no packet tells apart -/

/-- Whether some packet of at least the minimum length is let in, with some
magic, on one of two routes only. -/
def Separated (first second : Route) : Prop :=
  ∃ magic packet, minimumLength ≤ packet.length ∧
    first.accepts magic packet ≠ second.accepts magic packet

theorem not_separated_iff :
    ¬ Separated first second ↔
      ∀ magic packet, minimumLength ≤ packet.length →
        first.accepts magic packet = second.accepts magic packet := by
  simp [Separated]

/-- Routes that are not separated have the same tags. -/
theorem tags_eq_of_not_separated
    (together : ¬ Separated first second) (magic : Bytes) {length : UInt32}
    (long : minimumLength ≤ length.toNat) :
    first.chonkle magic length = second.chonkle magic length ∧
      first.pittle length = second.pittle length := by
  let body : Bytes := List.replicate (length.toNat - minimumLength) 0
  have bodyLength : minimumLength + body.length = length.toNat := by
    rw [List.length_replicate]
    omega
  have covered : coveredLength body.length = length := by
    rw [coveredLength, bodyLength, UInt32.ofNat_toNat]
  have fits : minimumLength + body.length < lengthBound := by
    rw [bodyLength]
    exact length.toNat_lt
  let packet := genuine first magic 0x01 body
  have packetLength : packet.length = minimumLength + body.length :=
    length_assemble _ _ _ _
  have accepted : first.accepts magic packet = true :=
    (accepts_iff_exists_genuine _ _ _).mpr ⟨_, _, fits, rfl⟩
  rw [not_separated_iff.mp together _ _ (by omega)] at accepted
  obtain ⟨-, chonkle, pittle⟩ := (accepts_assemble _ _ _ _ _ _).mp accepted
  rw [covered] at chonkle pittle
  exact ⟨chonkle, pittle⟩

/-- Magics reach every state, so equal Chonkles for all of them make the ends
act alike. -/
theorem actAlike_of_chonkle_eq
    {length : UInt32}
    (same : ∀ magic, first.chonkle magic length = second.chonkle magic length) :
    ActAlike first.endpoints second.endpoints := by
  have sameTag (state : UInt64) :
      Chonkle.scatter
          (absorbAll state
            (first.endpoints ++ littleEndian 4 length.toNat)) =
        Chonkle.scatter
          (absorbAll state
            (second.endpoints ++ littleEndian 4 length.toNat)) := by
    obtain ⟨magic, rfl⟩ := reachable state
    have tags := same magic
    rw [Route.chonkle_eq, Route.chonkle_eq] at tags
    rw [absorbAll_append, absorbAll_append]
    exact tags
  exact ActAlike.of_append_right (absorbAll_eq_of_scatter_eq sameTag).1

/-- What the tags can see of two routes, without any packet. -/
theorem not_separated_iff_actAlike :
    ¬ Separated first second ↔
      ActAlike first.endpoints second.endpoints ∧
        ∀ length : UInt32, minimumLength ≤ length.toNat →
          first.pittle length = second.pittle length := by
  constructor
  · intro together
    have tags := tags_eq_of_not_separated together
    constructor
    · exact actAlike_of_chonkle_eq fun magic =>
        (tags magic (by decide : minimumLength ≤ (18 : UInt32).toNat)).1
    · intro length long
      exact (tags [] long).2
  · rintro ⟨alike, samePittle⟩
    rw [not_separated_iff]
    intro magic packet long
    have sameChonkle (length : UInt32) :
        first.chonkle magic length = second.chonkle magic length := by
      rw [Route.chonkle_eq, Route.chonkle_eq, alike]
    rw [Bool.eq_iff_iff, accepts_iff, accepts_iff, sameChonkle]
    apply and_congr_right
    rintro ⟨-, fits⟩
    rw [samePittle _ (by rwa [UInt32.toNat_ofNat_of_lt' fits])]

/-! ## Strings that act alike -/

private theorem length_eq_of_prime_pow_eq :
    ∀ length : Nat, length < 37 → ∀ other : Nat, other < 37 →
      256 * prime ^ length = 256 * prime ^ other → length = other := by
  decide +kernel

/-- Runs of different lengths scale the upper bytes by different powers of the
prime. -/
theorem length_eq_of_actAlike
    {first second : Bytes} (alike : ActAlike first second)
    (firstShort : first.length ≤ 36) (secondShort : second.length ≤ 36) :
    first.length = second.length := by
  obtain ⟨-, powers⟩ :=
    absorbAll_eq_of_scatter_eq fun state => congrArg _ (alike state)
  exact length_eq_of_prime_pow_eq _ (by omega) _ (by omega) powers

/-- Strings of two parties that act alike are equal, unless both are those of
two IPv6 hosts and differ at both ends. -/
theorem endpoints_eq_of_actAlike
    {sender receiver otherSender otherReceiver : Address}
    (alike :
      ActAlike (between sender receiver).endpoints
        (between otherSender otherReceiver).endpoints)
    (comparable :
      (between sender receiver).endpoints.length ≤ 24 ∨
        (between otherSender otherReceiver).endpoints.length ≤ 24 ∨
        (between sender receiver).sender =
          (between otherSender otherReceiver).sender ∨
        (between sender receiver).receiver =
          (between otherSender otherReceiver).receiver) :
    (between sender receiver).endpoints =
      (between otherSender otherReceiver).endpoints := by
  have senderLength := Party.length_message_le sender
  have receiverLength := Party.length_message_le receiver
  have otherSenderLength := Party.length_message_le otherSender
  have otherReceiverLength := Party.length_message_le otherReceiver
  simp only [endpoints, between] at alike comparable ⊢
  have sameLength :=
    length_eq_of_actAlike alike
      (by rw [List.length_append]; omega) (by rw [List.length_append]; omega)
  -- An end that the routes share is a common front or back of the strings, and
  -- what is left of them is short.
  rcases comparable with short | otherShort | sameSender | sameReceiver
  · exact alike.eq_of_length_le sameLength short
  · exact alike.eq_of_length_le sameLength (by omega)
  · rw [sameSender] at alike sameLength ⊢
    rw [List.length_append, List.length_append] at sameLength
    rw [alike.of_append_left.eq_of_length_le (by omega) (by omega)]
  · rw [sameReceiver] at alike sameLength ⊢
    rw [List.length_append, List.length_append] at sameLength
    rw [alike.of_append_right.eq_of_length_le (by omega) (by omega)]

/-- Different routes with the same string go, one of them, from an IPv4 to an
IPv6 host, and the other from an IPv6 to an IPv4 host. -/
theorem families_swapped_of_endpoints_eq
    {sender receiver otherSender otherReceiver : Address}
    (present :
      sender.isAbsent = false ∧ receiver.isAbsent = false ∧
        otherSender.isAbsent = false ∧ otherReceiver.isAbsent = false)
    (different :
      between sender receiver ≠ between otherSender otherReceiver)
    (same :
      (between sender receiver).endpoints =
        (between otherSender otherReceiver).endpoints) :
    (Party.ofAddress sender).host.length ≠
        (Party.ofAddress receiver).host.length ∧
      (Party.ofAddress otherSender).host.length =
        (Party.ofAddress receiver).host.length ∧
      (Party.ofAddress otherReceiver).host.length =
        (Party.ofAddress sender).host.length := by
  have senderLength := Party.length_host present.1
  have receiverLength := Party.length_host present.2.1
  have otherSenderLength := Party.length_host present.2.2.1
  have otherReceiverLength := Party.length_host present.2.2.2
  have differentLength :
      (Party.ofAddress sender).host.length ≠
        (Party.ofAddress otherSender).host.length := fun sameLength =>
    different (eq_of_endpoints_eq sameLength same)
  have sameLength := congrArg List.length same
  simp only [endpoints, between, Party.message, List.length_append,
    length_littleEndian] at sameLength
  omega

/-- Two routes are let in alike, on every packet of at least the minimum length
and whatever the magic, exactly when their strings lead every state to the same
state and their Pittles are the same.  If one of the strings has at most 24
bytes, or the routes share an end, this means that the strings are equal.
Different routes have the same string only when one goes from an IPv4 to an
IPv6 host and the other from an IPv6 to an IPv4 host. -/
theorem tags_separate_routes_by_endpoints
    (sender receiver otherSender otherReceiver : Address)
    (present :
      sender.isAbsent = false ∧ receiver.isAbsent = false ∧
        otherSender.isAbsent = false ∧ otherReceiver.isAbsent = false) :
    let first := between sender receiver
    let second := between otherSender otherReceiver
    (¬ Separated first second ↔
      ActAlike first.endpoints second.endpoints ∧
        ∀ length : UInt32, minimumLength ≤ length.toNat →
          first.pittle length = second.pittle length) ∧
      (first.endpoints.length ≤ 24 ∨ second.endpoints.length ≤ 24 ∨
          first.sender = second.sender ∨ first.receiver = second.receiver →
        (Separated first second ↔ first.endpoints ≠ second.endpoints)) ∧
      (first ≠ second → first.endpoints = second.endpoints →
        first.sender.host.length ≠ first.receiver.host.length ∧
          second.sender.host.length = first.receiver.host.length ∧
          second.receiver.host.length = first.sender.host.length) := by
  intro first second
  refine ⟨not_separated_iff_actAlike, ?_, ?_⟩
  · intro comparable
    rw [← not_iff_not, not_separated_iff_actAlike, not_ne_iff]
    constructor
    · rintro ⟨alike, -⟩
      exact endpoints_eq_of_actAlike alike comparable
    · intro same
      refine ⟨fun state => by rw [same], fun length _ => ?_⟩
      rw [pittle, pittle, message_eq_of_endpoints_eq same]
  · exact families_swapped_of_endpoints_eq present

/-- A route between two IPv4 hosts and the way back are told apart. -/
theorem ipv4_way_back_is_separated :
    let sender := Address.ipv4 ⟨1, 2, 3, 4⟩ 1000
    let receiver := Address.ipv4 ⟨5, 6, 7, 8⟩ 2000
    Separated (between sender receiver) (between receiver sender) := by
  intro sender receiver
  obtain ⟨-, separated, -⟩ :=
    tags_separate_routes_by_endpoints sender receiver receiver sender
      (by decide)
  exact (separated (by decide)).mpr (by decide)

/-- A route from an IPv4 to an IPv6 host and the way back are let in alike. -/
theorem ipv4_to_ipv6_way_back_is_not_separated :
    let sender := Address.ipv4 ⟨1, 1, 1, 1⟩ 257
    let receiver :=
      Address.ipv6 ⟨257, 257, 257, 257, 257, 257, 257, 257⟩ 257 0 0
    let route := between sender receiver
    route.reversed ≠ route ∧
      ∀ magic packet,
        route.reversed.accepts magic packet = route.accepts magic packet := by
  intro sender receiver route
  refine ⟨by decide, fun magic packet => ?_⟩
  have same : route.reversed.endpoints = route.endpoints := by decide
  rw [Bool.eq_iff_iff, accepts_iff, accepts_iff, chonkle, chonkle, pittle,
    pittle, message_eq_of_endpoints_eq same]

end Route

end RelayFrame
