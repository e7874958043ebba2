import RelayFrame.Packet.Admission
import RelayFrame.Report.Inspection

/-!
# The faults that the log tells

Each of the two checks stops at the first thing wrong, and an inspection logs
what this was before it logs both verdicts.  So the log gives the true cause of
each refusal: a byte of the header that is outside its band with none such
before it, or a tag that differs while the one before it is right.
-/

namespace RelayFrame

namespace Packet

/-! ## The header -/

def LiesInBand (bands : List Band) (bytes : Bytes) (index : Nat) : Prop :=
  ∃ band byte, bands[index]? = some band ∧ bytes[index]? = some byte ∧
    band.admits byte = true

theorem liesInBand_zero
    {band : Band} {bands : List Band} {byte : UInt8} {bytes : Bytes} :
    LiesInBand (band :: bands) (byte :: bytes) 0 ↔
      band.admits byte = true := by
  simp [LiesInBand]

theorem liesInBand_succ
    {band : Band} {bands : List Band} {byte : UInt8} {bytes : Bytes}
    {index : Nat} :
    LiesInBand (band :: bands) (byte :: bytes) (index + 1) ↔
      LiesInBand bands bytes index := Iff.rfl

/-- The search for a byte outside its band finds the one with none before it.
-/
theorem firstOutOfBand?_eq_some_iff
    {bands : List Band} {bytes : Bytes} {start : Nat} {fault : HeaderFault} :
    firstOutOfBand? start bands bytes = some fault ↔
      ∃ index byte, fault = .outOfBand (start + index) byte ∧
        index < bands.length ∧ bytes[index]? = some byte ∧
        ¬ LiesInBand bands bytes index ∧
        ∀ earlier < index, LiesInBand bands bytes earlier := by
  fun_induction firstOutOfBand? start bands bytes with
  | case1 start band bands byte bytes admitted inductionHypothesis =>
      rw [inductionHypothesis]
      constructor
      · rintro ⟨index, value, rfl, inside, valueAt, outside, before⟩
        refine
          ⟨index + 1, value, by rw [Nat.add_right_comm, Nat.add_assoc],
            Nat.succ_lt_succ inside, valueAt, mt liesInBand_succ.mp outside,
            fun earlier isEarlier => ?_⟩
        cases earlier with
        | zero => exact liesInBand_zero.mpr admitted
        | succ earlier =>
            exact
              liesInBand_succ.mpr
                (before earlier (Nat.lt_of_succ_lt_succ isEarlier))
      · rintro ⟨index, value, rfl, inside, valueAt, outside, before⟩
        cases index with
        | zero => exact absurd (liesInBand_zero.mpr admitted) outside
        | succ index =>
            exact
              ⟨index, value, by rw [Nat.add_right_comm, Nat.add_assoc],
                Nat.lt_of_succ_lt_succ inside, valueAt,
                mt liesInBand_succ.mpr outside,
                fun earlier isEarlier =>
                  liesInBand_succ.mp
                    (before (earlier + 1) (Nat.succ_lt_succ isEarlier))⟩
  | case2 start band bands byte bytes refused =>
      constructor
      · rintro ⟨⟩
        exact
          ⟨0, byte, rfl, Nat.succ_pos _, rfl,
            fun lies => refused (liesInBand_zero.mp lies), nofun⟩
      · rintro ⟨index, value, rfl, -, valueAt, -, before⟩
        cases index with
        | zero =>
            obtain rfl : byte = value := Option.some.inj valueAt
            rfl
        | succ index =>
            have firstLies := before 0 (Nat.succ_pos index)
            exact absurd (liesInBand_zero.mp firstLies) refused
  | case3 bands start bytes ended =>
      refine iff_of_false nofun ?_
      rintro ⟨index, value, -, inside, valueAt, -⟩
      cases bands with
      | nil => exact absurd inside (Nat.not_lt_zero index)
      | cons band bands =>
          cases bytes with
          | nil => cases valueAt
          | cons byte bytes => exact ended _ _ _ _ rfl rfl

/-- Whether a fault is the first that a header has. -/
def HeaderFault.IsFirstIn (packet : Bytes) : HeaderFault → Prop
  | tooSmall length => packet.length < 18 ∧ length = packet.length
  | outOfBand index byte =>
      18 ≤ packet.length ∧ index < 16 ∧ packet[index]? = some byte ∧
        ¬ LiesInBand headerBands packet index ∧
        ∀ earlier < index, LiesInBand headerBands packet earlier

/-- The header has the fault that is found, and no other comes first. -/
theorem headerFault?_eq_some_iff {packet : Bytes} {fault : HeaderFault} :
    headerFault? packet = some fault ↔ fault.IsFirstIn packet := by
  have shortIff : packet.length < minimumLength ↔ packet.length < 18 := Iff.rfl
  rw [headerFault?]
  split
  next short =>
    cases fault with
    | tooSmall length =>
        simp [HeaderFault.IsFirstIn, shortIff.mp short, eq_comm]
    | outOfBand index byte =>
        exact iff_of_false nofun fun first =>
          absurd (shortIff.mp short) (Nat.not_lt.mpr first.1)
  next long =>
    rw [firstOutOfBand?_eq_some_iff]
    cases fault with
    | tooSmall length =>
        refine iff_of_false ?_ fun first => long (shortIff.mpr first.1)
        rintro ⟨_, _, ⟨⟩, _⟩
    | outOfBand index byte =>
        have longEnough : 18 ≤ packet.length := Nat.not_lt.mp long
        constructor
        · rintro ⟨place, value, same, inside⟩
          rw [Nat.zero_add] at same
          cases same
          exact ⟨longEnough, inside⟩
        · rintro ⟨-, inside⟩
          exact ⟨index, byte, by rw [Nat.zero_add], inside⟩

/-! ## The tags -/

/-- Whether a fault is the first that the tags have on a route. -/
def TagFault.IsFirstOn (route : Route) (magic packet : Bytes) :
    TagFault → Prop
  | tooSmall length => packet.length < 18 ∧ length = packet.length
  | tooLarge length => 0xffffffff < packet.length ∧ length = packet.length
  | chonkle =>
      (18 ≤ packet.length ∧ packet.length ≤ 0xffffffff) ∧
        (packet.drop 1).take 15 ≠
          (route.chonkle magic (UInt32.ofNat packet.length)).toList
  | pittle =>
      (18 ≤ packet.length ∧ packet.length ≤ 0xffffffff) ∧
        (packet.drop 1).take 15 =
          (route.chonkle magic (UInt32.ofNat packet.length)).toList ∧
        packet.drop (packet.length - 2) ≠
          (route.pittle (UInt32.ofNat packet.length)).toList

end Packet

open Packet in
/-- The tags have the fault that is found, and no other comes first. -/
theorem Route.tagFault?_eq_some_iff
    {route : Route} {magic packet : Bytes} {fault : TagFault} :
    route.tagFault? magic packet = some fault ↔
      fault.IsFirstOn route magic packet := by
  have shortIff : packet.length < minimumLength ↔ packet.length < 18 := Iff.rfl
  have largeIff :
      lengthBound ≤ packet.length ↔ 0xffffffff < packet.length := Iff.rfl
  have chonklePlace :
      chonkleBytes packet = (packet.drop 1).take 15 := rfl
  have pittlePlace :
      pittleBytes packet = packet.drop (packet.length - 2) := rfl
  simp only [tagFault?, shortIff, largeIff, chonklePlace, pittlePlace]
  cases fault with
  | tooSmall length => grind [TagFault.IsFirstOn]
  | tooLarge length => grind [TagFault.IsFirstOn]
  | chonkle => grind [TagFault.IsFirstOn]
  | pittle => grind [TagFault.IsFirstOn]

namespace Report

open Packet

def claimFault? (packet : Bytes) (claim : Option Claim) : Option TagFault :=
  claim.bind fun claim => claim.route.tagFault? claim.magic packet

theorem claimFault?_eq_some_iff
    {packet : Bytes} {claim : Option Claim} {fault : TagFault} :
    claimFault? packet claim = some fault ↔
      ∃ route magic, claim = some ⟨magic, route⟩ ∧
        fault.IsFirstOn route magic packet := by
  rw [claimFault?, Option.bind_eq_some_iff]
  constructor
  · rintro ⟨⟨magic, route⟩, isClaim, found⟩
    exact ⟨route, magic, isClaim, Route.tagFault?_eq_some_iff.mp found⟩
  · rintro ⟨route, magic, isClaim, isFirst⟩
    exact ⟨⟨magic, route⟩, isClaim, Route.tagFault?_eq_some_iff.mpr isFirst⟩

/-- A fault of the tags is found exactly when the second check fails. -/
theorem isSome_claimFault?_iff {packet : Bytes} {claim : Option Claim} :
    (claimFault? packet claim).isSome = true ↔
      (inspect packet claim).1.advanced = some false := by
  cases claim with
  | none => exact iff_of_false nofun nofun
  | some claim =>
      simp only [claimFault?, Option.bind_some, inspect, Option.map_some,
        Option.some.injEq]
      cases claim.route.tagFault? claim.magic packet <;> simp

/-! ## The lines -/

/-- How the log words a fault of the header. -/
def headerLine : HeaderFault → Log.Line
  | .tooSmall length =>
      ⟨.trace, "wire::filter", "basic filter: packet too small",
        [("len", length.repr)]⟩
  | .outOfBand index byte =>
      ⟨.trace, "wire::filter", "basic filter: header byte out of range",
        [("index", index.repr), ("value", byte.toNat.repr)]⟩

def tagLine : TagFault → Log.Line
  | .tooSmall length =>
      ⟨.trace, "wire::filter", "advanced filter: packet too small",
        [("len", length.repr)]⟩
  | .tooLarge length =>
      ⟨.trace, "wire::filter", "advanced filter: packet too large",
        [("len", length.repr)]⟩
  | .chonkle =>
      ⟨.trace, "wire::filter", "advanced filter: chonkle mismatch", []⟩
  | .pittle =>
      ⟨.trace, "wire::filter", "advanced filter: pittle mismatch", []⟩

def verdictLine (inspection : Inspection) : Log.Line :=
  ⟨.debug, "udpx_tools", "inspected packet",
    [("len", inspection.packetLength.repr),
      ("basic", if inspection.basic = true then "true" else "false"),
      ("advanced",
        match inspection.advanced with
        | none => "None"
        | some false => "Some(false)"
        | some true => "Some(true)")]⟩

theorem line_comp_headerFault :
    Log.Event.line ∘ Log.Event.headerFault = headerLine := by
  funext fault
  cases fault <;> rfl

theorem line_comp_tagFault :
    Log.Event.line ∘ Log.Event.tagFault = tagLine := by
  funext fault
  cases fault <;> rfl

theorem line_inspected (inspection : Inspection) :
    Log.Event.line
        (.inspected inspection.packetLength inspection.basic
          inspection.advanced) =
      verdictLine inspection := by
  rw [verdictLine]
  rcases inspection.advanced with _ | _ | _ <;> rfl

/-- An inspection logs the first fault of the header exactly when the header is
refused, then the first fault of the tags exactly when the tags are refused,
and then, always and once, that the packet was inspected, with what the report
says of it. -/
theorem log_tells_the_first_fault_of_each_check
    (packet : Bytes) (claim : Option Claim) :
    let inspection := (inspect packet claim).1
    ∃ (header : Option HeaderFault) (tags : Option TagFault),
      (inspect packet claim).2 =
          header.toList.map .headerFault ++ tags.toList.map .tagFault ++
            [.inspected inspection.packetLength inspection.basic
              inspection.advanced] ∧
        (inspect packet claim).2.map Log.Event.line =
          header.toList.map headerLine ++ tags.toList.map tagLine ++
            [verdictLine inspection] ∧
        (header.isSome = true ↔ inspection.basic = false) ∧
        (tags.isSome = true ↔ inspection.advanced = some false) ∧
        (∀ fault, header = some fault ↔ fault.IsFirstIn packet) ∧
        ∀ fault, tags = some fault ↔
          ∃ route magic, claim = some ⟨magic, route⟩ ∧
            fault.IsFirstOn route magic packet := by
  intro inspection
  have events :
      (inspect packet claim).2 =
        (headerFault? packet).toList.map .headerFault ++
          (claimFault? packet claim).toList.map .tagFault ++
          [.inspected inspection.packetLength inspection.basic
            inspection.advanced] := by
    cases claim <;> rfl
  refine
    ⟨headerFault? packet, claimFault? packet claim, events, ?_, ?_,
      isSome_claimFault?_iff, fun fault => headerFault?_eq_some_iff,
      fun fault => claimFault?_eq_some_iff⟩
  · simp [events, line_comp_headerFault, line_comp_tagFault, line_inspected]
  · cases fault : headerFault? packet <;> simp [inspection, inspect, fault]

/-- The third byte after the type is one more than its band has room for. -/
example :
    (inspect (0x01 :: 0x2a :: 0xc8 :: 0x45 :: List.replicate 14 0x00)
        (some ⟨[], ⟨⟨[], 0⟩, ⟨[], 0⟩⟩⟩)).2.map Log.Event.text =
      ["TRACE wire::filter: basic filter: header byte out of range" ++
          " index=3 value=69",
        "TRACE wire::filter: advanced filter: chonkle mismatch",
        "DEBUG udpx_tools: inspected packet len=18 basic=false" ++
          " advanced=Some(false)"] := by
  decide +kernel

end Report

end RelayFrame
