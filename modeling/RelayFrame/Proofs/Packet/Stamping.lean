import RelayFrame.Packet.Admission
import RelayFrame.Proofs.Packet.Parts

/-!
# Stamping and the tags that pass

Stamping replaces both tags of a packet and keeps its other parts, and the
second check accepts exactly the packets whose tags stamping would leave as
they are.
-/

namespace RelayFrame

namespace Route

/-- The packet with both tags of the route laid over their places. -/
def imprint (route : Route) (magic packet : Bytes) : Bytes :=
  let length := UInt32.ofNat packet.length
  let headed :=
    splice packet Packet.chonkleOffset (route.chonkle magic length).toList
  splice headed (Packet.pittleOffset packet) (route.pittle length).toList

/-- Stamping in place lays both tags, or is refused and lays none. -/
theorem stampInPlace_eq (route : Route) (magic packet : Bytes) :
    route.stampInPlace magic packet =
      if packet.length < Packet.minimumLength then
        (packet, some (.tooSmall packet.length))
      else if Packet.lengthBound ≤ packet.length then
        (packet, some (.tooLarge packet.length))
      else
        (route.imprint magic packet, none) := by
  rw [stampInPlace, stamping, run_get_bind]
  by_cases short : packet.length < Packet.minimumLength
  · rw [if_pos short, if_pos short]
    rfl
  · by_cases large : Packet.lengthBound ≤ packet.length
    · rw [if_neg short, if_neg short, if_pos large, if_pos large]
      rfl
    · rw [if_neg short, if_neg short, if_neg large, if_neg large]
      rfl

theorem stampInPlace_of_fits
    (route : Route) (magic : Bytes) {packet : Bytes}
    (long : Packet.minimumLength ≤ packet.length)
    (fits : packet.length < Packet.lengthBound) :
    route.stampInPlace magic packet = (route.imprint magic packet, none) := by
  rw [stampInPlace_eq, if_neg (Nat.not_lt.mpr long),
    if_neg (Nat.not_le.mpr fits)]

theorem stampInPlace_of_short
    (route : Route) (magic : Bytes) {packet : Bytes}
    (short : packet.length < Packet.minimumLength) :
    route.stampInPlace magic packet =
      (packet, some (.tooSmall packet.length)) := by
  rw [stampInPlace_eq, if_pos short]

theorem stampInPlace_eq_iff
    {route : Route} {magic packet stamped : Bytes} :
    route.stampInPlace magic packet = (stamped, none) ↔
      route.stamp magic packet = .ok stamped := by
  rw [stamp]
  obtain ⟨later, refused⟩ := route.stampInPlace magic packet
  cases refused <;> simp

end Route

namespace Packet

def coveredLength (bodyLength : Nat) : UInt32 :=
  UInt32.ofNat (minimumLength + bodyLength)

/-- The packet with both tags of a route around a payload. -/
def genuine (route : Route) (magic : Bytes) (type : UInt8) (body : Bytes) :
    Bytes :=
  assemble type (route.chonkle magic (coveredLength body.length)) body
    (route.pittle (coveredLength body.length))

/-- Stamping replaces the tags and keeps the type and the payload. -/
theorem imprint_assemble
    (route : Route) (magic : Bytes) (type : UInt8) (chonkle : Chonkle)
    (body : Bytes) (pittle : Pittle) :
    route.imprint magic (assemble type chonkle body pittle) =
      genuine route magic type body := by
  let newChonkle := route.chonkle magic (coveredLength body.length)
  let newPittle := route.pittle (coveredLength body.length)
  have headed :
      splice (assemble type chonkle body pittle) chonkleOffset
          newChonkle.toList =
        assemble type newChonkle body pittle := by
    have sameLength : newChonkle.toList.length = chonkle.toList.length := by
      simp
    have patched := splice_append sameLength [type] (body ++ pittle.toList)
    simpa [assemble, chonkleOffset] using patched
  have tailed :
      splice (assemble type newChonkle body pittle)
          (payloadOffset + body.length) newPittle.toList =
        assemble type newChonkle body newPittle := by
    have sameLength : newPittle.toList.length = pittle.toList.length := by
      simp
    have patched :=
      splice_append sameLength (type :: (newChonkle.toList ++ body)) []
    simpa [assemble, payloadOffset, chonkleOffset, Chonkle.size,
      Nat.add_comm, Nat.add_left_comm, Nat.add_assoc] using patched
  rw [Route.imprint, length_assemble, pittleOffset_assemble]
  change splice (splice _ _ newChonkle.toList) _ newPittle.toList = _
  rw [headed, tailed, genuine]

/-- The second check lets in the packets of a length that both tags fit and
can tell, with both tags of the route in their places. -/
theorem accepts_iff
    (route : Route) (magic packet : Bytes) :
    route.accepts magic packet = true ↔
      (minimumLength ≤ packet.length ∧ packet.length < lengthBound) ∧
        chonkleBytes packet =
          (route.chonkle magic (UInt32.ofNat packet.length)).toList ∧
        pittleBytes packet =
          (route.pittle (UInt32.ofNat packet.length)).toList := by
  rw [Route.accepts, Route.tagFault?]
  by_cases long : packet.length < minimumLength
  · simp [long, Nat.not_le.mpr long]
  · by_cases large : lengthBound ≤ packet.length
    · simp [long, large, Nat.not_lt.mpr large]
    · have lengthFits :
          minimumLength ≤ packet.length ∧ packet.length < lengthBound :=
        ⟨Nat.not_lt.mp long, Nat.not_le.mp large⟩
      simp only [if_neg long, if_neg large, lengthFits, true_and, and_self]
      split
      · simp_all
      · split <;> simp_all

/-- A packet is let in when its length can be covered and both tags are those
of the route. -/
theorem accepts_assemble
    (route : Route) (magic : Bytes) (type : UInt8) (chonkle : Chonkle)
    (body : Bytes) (pittle : Pittle) :
    route.accepts magic (assemble type chonkle body pittle) = true ↔
      minimumLength + body.length < lengthBound ∧
        chonkle = route.chonkle magic (coveredLength body.length) ∧
        pittle = route.pittle (coveredLength body.length) := by
  have covered :
      UInt32.ofNat (minimumLength + body.length) =
        coveredLength body.length := rfl
  rw [accepts_iff, length_assemble, chonkleBytes_assemble,
    pittleBytes_assemble, covered, Vector.toList_inj, Vector.toList_inj]
  simp

/-- The second check lets in the genuine packets of a length that the tags can
tell, and no others. -/
theorem accepts_iff_exists_genuine
    (route : Route) (magic packet : Bytes) :
    route.accepts magic packet = true ↔
      ∃ type body, minimumLength + body.length < lengthBound ∧
        packet = genuine route magic type body := by
  constructor
  · intro accepted
    have long := ((accepts_iff _ _ _).mp accepted).1.1
    obtain ⟨type, chonkle, body, pittle, rfl⟩ :=
      exists_assemble_of_minimumLength_le long
    obtain ⟨fits, rfl, rfl⟩ := (accepts_assemble _ _ _ _ _ _).mp accepted
    exact ⟨type, body, fits, rfl⟩
  · rintro ⟨type, body, fits, rfl⟩
    exact (accepts_assemble _ _ _ _ _ _).mpr ⟨fits, rfl, rfl⟩

/-- Stamping succeeds for every length that the tags can cover. -/
theorem stamp_eq_ok_iff
    {route : Route} {magic packet stamped : Bytes} :
    route.stamp magic packet = .ok stamped ↔
      minimumLength ≤ packet.length ∧ packet.length < lengthBound ∧
        route.imprint magic packet = stamped := by
  rw [← Route.stampInPlace_eq_iff, Route.stampInPlace_eq]
  by_cases long : minimumLength ≤ packet.length
  · by_cases fits : packet.length < lengthBound
    · simp [long, fits, Nat.not_lt.mpr long, Nat.not_le.mpr fits]
    · simp [fits, Nat.not_lt.mpr long, Nat.not_lt.mp fits]
  · simp [long, Nat.not_le.mp long]

/-- The second check lets in the packets that are long enough, not too long,
and left as they are by stamping. -/
theorem accepts_iff_imprint_eq
    (route : Route) (magic packet : Bytes) :
    route.accepts magic packet = true ↔
      minimumLength ≤ packet.length ∧ packet.length < lengthBound ∧
        route.imprint magic packet = packet := by
  by_cases long : minimumLength ≤ packet.length
  · obtain ⟨type, chonkle, body, pittle, rfl⟩ :=
      exists_assemble_of_minimumLength_le long
    rw [accepts_assemble, imprint_assemble, genuine, assemble_inj,
      length_assemble]
    constructor
    · rintro ⟨fits, rfl, rfl⟩
      exact ⟨by omega, fits, rfl, rfl, rfl, rfl⟩
    · rintro ⟨_, fits, _, sameChonkle, _, samePittle⟩
      exact ⟨fits, sameChonkle.symm, samePittle.symm⟩
  · simp [Route.accepts, Route.tagFault?, Nat.lt_of_not_le long, long]

/-- A packet is built from every valid type and every payload that is not too
long, with both tags of the route in it. -/
theorem build_eq_ok_iff
    {type : UInt8} {body magic packet : Bytes} {route : Route} :
    build type body magic route = .ok packet ↔
      isType type = true ∧ minimumLength + body.length < lengthBound ∧
        packet = genuine route magic type body := by
  rw [build, blank_eq_assemble]
  by_cases valid : isType type = true
  · by_cases fits : minimumLength + body.length < lengthBound
    · rw [Route.stampInPlace_of_fits _ _ (by simp) (by simpa using fits),
        imprint_assemble]
      simp [valid, fits, Nat.not_le.mpr fits, eq_comm]
    · simp [valid, fits, Nat.not_lt.mp fits]
  · simp [valid]

end Packet

end RelayFrame
