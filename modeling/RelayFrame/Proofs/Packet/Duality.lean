import RelayFrame.Proofs.Packet.Header
import RelayFrame.Proofs.Packet.Stamping
import RelayFrame.Tool.Task

/-!
# Building and inspecting

The two directions of the packet format fit together: what inspection lets in
for a route is exactly what building makes for it.  No other byte string is
let in, and building fails for no reason but the type or the length.
-/

namespace RelayFrame

namespace Tool

/-- A packet is crafted by building it, and building it is what is logged. -/
theorem craft_eq_ok_iff
    {packetType : UInt8} {body magic packet : Bytes}
    {sender receiver : Address} {events : List Log.Event} :
    craft packetType body magic sender receiver = .ok (packet, events) ↔
      Packet.build packetType body magic (Route.between sender receiver) =
          .ok packet ∧
        events = [.stamped packet.length packetType] := by
  rw [craft]
  split
  next built =>
    rw [built]
    constructor
    · rintro ⟨⟩
      exact ⟨rfl, rfl⟩
    · rintro ⟨⟨⟩, rfl⟩
      rfl
  next built =>
    rw [built]
    exact iff_of_false nofun nofun

theorem map_fst_craft_eq_ok_iff
    {packetType : UInt8} {body magic packet : Bytes}
    {sender receiver : Address} :
    (craft packetType body magic sender receiver).map Prod.fst = .ok packet ↔
      Packet.build packetType body magic (Route.between sender receiver) =
        .ok packet := by
  constructor
  · intro crafted
    obtain ⟨⟨_, _⟩, made, rfl⟩ := exists_of_map_eq_ok crafted
    exact (craft_eq_ok_iff.mp made).1
  · intro built
    rw [craft_eq_ok_iff.mpr ⟨built, rfl⟩]
    rfl

end Tool

namespace Packet

open Report

theorem isType_iff (type : UInt8) :
    isType type = true ↔ 0x01 ≤ type ∧ type ≤ 0x63 := by
  simp only [isType, Bool.and_eq_true, decide_eq_true_eq]
  rfl

theorem hasPlausibleHeader_genuine
    (route : Route) (magic : Bytes) (type : UInt8) (body : Bytes) :
    hasPlausibleHeader (genuine route magic type body) = isType type :=
  hasPlausibleHeader_assemble_scatter type _ body _

theorem accepts_genuine
    (route : Route) (magic : Bytes) (type : UInt8) {body : Bytes}
    (fits : minimumLength + body.length < lengthBound) :
    route.accepts magic (genuine route magic type body) = true :=
  (accepts_assemble route magic type _ body _).mpr ⟨fits, rfl, rfl⟩

theorem accepted_inspect_iff
    (packet magic : Bytes) (route : Route) :
    (inspect packet (some ⟨magic, route⟩)).1.accepted = true ↔
      hasPlausibleHeader packet = true ∧
        route.accepts magic packet = true := by
  simp [inspect, Inspection.accepted, hasPlausibleHeader, Route.accepts]

/-- Of the packets with given parts, the accepted ones are those that are built
from the type and the payload among these parts. -/
private theorem accepted_assemble_iff_build_eq
    (type : UInt8) (chonkle : Chonkle) (body : Bytes) (pittle : Pittle)
    (magic : Bytes) (route : Route) :
    (inspect (assemble type chonkle body pittle)
        (some ⟨magic, route⟩)).1.accepted = true ↔
      build type body magic route =
        .ok (assemble type chonkle body pittle) := by
  rw [accepted_inspect_iff, accepts_assemble, build_eq_ok_iff, genuine,
    assemble_inj]
  constructor
  · rintro ⟨headerPasses, fits, rfl, rfl⟩
    rw [← genuine, hasPlausibleHeader_genuine] at headerPasses
    exact ⟨headerPasses, fits, rfl, rfl, rfl, rfl⟩
  · rintro ⟨valid, fits, _, rfl, _, rfl⟩
    rw [← genuine, hasPlausibleHeader_genuine]
    exact ⟨valid, fits, rfl, rfl⟩

/-- Inspection for a route lets in a packet exactly when the packet is long
enough to have parts and crafting one of the same type and payload between the
same addresses makes the very same packet.  Crafting succeeds exactly for packet
types and payloads that fit, and what it makes has the type and the payload it
was made of and passes both checks. -/
theorem accepted_iff_crafted_and_crafted_passes
    (magic : Bytes) (sender receiver : Address) :
    let claim : Claim := ⟨magic, Route.between sender receiver⟩
    let crafted := fun type body =>
      (Tool.craft type body magic sender receiver).map Prod.fst
    (∀ packet : Bytes,
      (inspect packet (some claim)).1.accepted = true ↔
        18 ≤ packet.length ∧
          ∃ type body,
            packet.head? = some type ∧ payload? packet = some body ∧
              crafted type body = .ok packet) ∧
      ∀ (type : UInt8) (body : Bytes),
        ((∃ packet, crafted type body = .ok packet) ↔
          (0x01 ≤ type ∧ type ≤ 0x63) ∧
            18 + body.length < 0x100000000) ∧
        ∀ packet, crafted type body = .ok packet →
          let inspection := (inspect packet (some claim)).1
          packet.length = 18 + body.length ∧
            inspection.packetType = some type ∧
            payload? packet = some body ∧
            inspection.basic = true ∧
            inspection.advanced = some true := by
  simp only [Tool.map_fst_craft_eq_ok_iff]
  let route := Route.between sender receiver
  constructor
  · intro packet
    constructor
    · intro accepted
      have accepts := ((accepted_inspect_iff _ _ _).mp accepted).2
      have long := ((accepts_iff_imprint_eq _ _ _).mp accepts).1
      obtain ⟨type, chonkle, body, pittle, rfl⟩ :=
        exists_assemble_of_minimumLength_le long
      exact
        ⟨long, type, body, rfl, payload?_assemble _ _ _ _,
          (accepted_assemble_iff_build_eq _ _ _ _ _ _).mp accepted⟩
    · rintro ⟨long, type, body, head, payload, built⟩
      obtain ⟨packetType, chonkle, packetBody, pittle, rfl⟩ :=
        exists_assemble_of_minimumLength_le long
      rw [head?_assemble, Option.some.injEq] at head
      rw [payload?_assemble, Option.some.injEq] at payload
      subst head payload
      exact (accepted_assemble_iff_build_eq _ _ _ _ _ _).mpr built
  · intro type body
    constructor
    · rw [← isType_iff]
      constructor
      · rintro ⟨packet, built⟩
        obtain ⟨valid, fits, _⟩ := build_eq_ok_iff.mp built
        exact ⟨valid, fits⟩
      · rintro ⟨valid, fits⟩
        exact ⟨_, build_eq_ok_iff.mpr ⟨valid, fits, rfl⟩⟩
    · intro packet built
      obtain ⟨valid, fits, rfl⟩ := build_eq_ok_iff.mp built
      have headerPasses := hasPlausibleHeader_genuine route magic type body
      have accepts := accepts_genuine route magic type fits
      refine ⟨length_assemble _ _ _ _, rfl, payload?_assemble _ _ _ _, ?_, ?_⟩
      · exact headerPasses.trans valid
      · exact congrArg some accepts

theorem two_byte_payload_is_crafted_and_accepted :
    let magic : Bytes := [9, 8, 7, 6, 5, 4, 3, 2]
    let sender := Address.ipv4 ⟨1, 2, 3, 4⟩ 1000
    let receiver := Address.ipv4 ⟨5, 6, 7, 8⟩ 2000
    ∃ packet,
      (Tool.craft 0x01 [0xaa, 0xbb] magic sender receiver).map Prod.fst =
          .ok packet ∧
        packet.length = 20 ∧
        payload? packet = some [0xaa, 0xbb] ∧
        (inspect packet
          (some ⟨magic, Route.between sender receiver⟩)).1.accepted = true := by
  intro magic sender receiver
  obtain ⟨accepted, parts⟩ :=
    accepted_iff_crafted_and_crafted_passes magic sender receiver
  obtain ⟨succeeds, passes⟩ := parts 0x01 [0xaa, 0xbb]
  obtain ⟨packet, crafted⟩ := succeeds.mpr (by decide)
  obtain ⟨length, packetType, payload, -, -⟩ := passes packet crafted
  have head : packet.head? = some 0x01 := packetType
  refine ⟨packet, crafted, length, payload, (accepted packet).mpr ?_⟩
  exact ⟨by rw [length]; decide, _, _, head, payload, crafted⟩

end Packet

end RelayFrame
