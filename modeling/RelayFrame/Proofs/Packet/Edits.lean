import RelayFrame.Proofs.Packet.FixedPoint

/-!
# Packets that are stamped and filled in any order

The type byte and the payload of a packet may be written before it is stamped,
after that, or between two stamps for different routes.  The parts of a packet
do not overlap, so neither kind of change disturbs the other: the last stamp
decides both tags, whatever is written around it, and the last write to any
other byte decides that byte, whatever is stamped around it.
-/

namespace RelayFrame.Packet

/-! ## Edits -/

/-- Whether a byte of a packet of the given length is its type or belongs to
its payload. -/
def IsContentIndex (length index : Nat) : Prop :=
  index = 0 ∨ (16 ≤ index ∧ index < length - 2)

instance (length index : Nat) : Decidable (IsContentIndex length index) :=
  inferInstanceAs (Decidable (_ ∨ _))

inductive Edit where
  | stamp (route : Route) (magic : Bytes)
  | write (index : Nat) (byte : UInt8)
deriving DecidableEq, Repr

namespace Edit

/-- The packet after the edit.  Only a stamp can be refused. -/
def perform (packet : Bytes) : Edit → Except StampError Bytes
  | stamp route magic => route.stamp magic packet
  | write index byte => .ok (packet.set index byte)

/-- Whether the edit leaves the tags of a packet of the given length to
stamping. -/
def SparesTags (length : Nat) : Edit → Prop
  | stamp _ _ => True
  | write index _ => IsContentIndex length index

instance (length : Nat) : (edit : Edit) → Decidable (edit.SparesTags length)
  | stamp _ _ => inferInstanceAs (Decidable True)
  | write index _ => inferInstanceAs (Decidable (IsContentIndex length index))

def context? : Edit → Option (Route × Bytes)
  | stamp route magic => some (route, magic)
  | write _ _ => none

def byteAt? (index : Nat) : Edit → Option UInt8
  | stamp _ _ => none
  | write place byte => if place = index then some byte else none

end Edit

def edited (packet : Bytes) (edits : List Edit) : Except StampError Bytes :=
  edits.foldlM Edit.perform packet

def lastContext? (edits : List Edit) : Option (Route × Bytes) :=
  edits.reverse.findSome? Edit.context?

/-- The last byte that a row of edits writes at an index. -/
def lastWritten? (edits : List Edit) (index : Nat) : Option UInt8 :=
  edits.reverse.findSome? (Edit.byteAt? index)

theorem lastContext?_append (first second : List Edit) :
    lastContext? (first ++ second) =
      (lastContext? second).or (lastContext? first) := by
  rw [lastContext?, List.reverse_append, List.findSome?_append]
  rfl

theorem lastWritten?_append (first second : List Edit) (index : Nat) :
    lastWritten? (first ++ second) index =
      (lastWritten? second index).or (lastWritten? first index) := by
  rw [lastWritten?, List.reverse_append, List.findSome?_append]
  rfl

theorem exists_lastContext?
    {edits : List Edit} {route : Route} {magic : Bytes}
    (member : .stamp route magic ∈ edits) :
    ∃ context, lastContext? edits = some context := by
  rw [← Option.isSome_iff_exists, lastContext?, List.findSome?_isSome_iff]
  exact ⟨_, List.mem_reverse.mpr member, rfl⟩

/-! ## What edits make of a packet -/

def tagBytes (packet : Bytes) : Bytes × Bytes :=
  (chonkleBytes packet, pittleBytes packet)

/-- The bytes of both tags that a packet of the given length gets from a
stamp. -/
def stampedTagBytes (length : Nat) (context : Route × Bytes) : Bytes × Bytes :=
  ((context.1.chonkle context.2 (UInt32.ofNat length)).toList,
    (context.1.pittle (UInt32.ofNat length)).toList)

/-- What a row of edits has made of a packet. -/
structure Became
    (packet : Bytes) (edits : List Edit) (later : Bytes) : Prop where
  length_eq : later.length = packet.length
  content_eq : ∀ index, IsContentIndex packet.length index →
    later[index]? = (lastWritten? edits index).or packet[index]?
  tags_eq : tagBytes later =
    ((lastContext? edits).map (stampedTagBytes packet.length)).getD
      (tagBytes packet)

theorem Became.nil (packet : Bytes) : Became packet [] packet :=
  ⟨rfl, fun _ _ => rfl, rfl⟩

/-- What is done later overrules what was done before it. -/
theorem Became.append
    {packet middle later : Bytes} {first second : List Edit}
    (before : Became packet first middle)
    (after : Became middle second later) :
    Became packet (first ++ second) later where
  length_eq := after.length_eq.trans before.length_eq
  content_eq index content := by
    rw [after.content_eq index (before.length_eq ▸ content),
      before.content_eq index content, lastWritten?_append, Option.or_assoc]
  tags_eq := by
    rw [after.tags_eq, before.tags_eq, before.length_eq, lastContext?_append]
    cases lastContext? second <;> rfl

/-! ## One edit -/

theorem getElem?_assemble_payload
    (type : UInt8) (chonkle : Chonkle) {body : Bytes} (pittle : Pittle)
    {index : Nat} (inside : index < body.length) :
    (assemble type chonkle body pittle)[16 + index]? = body[index]? := by
  have front : (type :: chonkle.toList).length = 16 := by simp
  have split :
      assemble type chonkle body pittle =
        (type :: chonkle.toList) ++ (body ++ pittle.toList) := by
    simp [assemble]
  rw [split, List.getElem?_append_right (by omega), front,
    Nat.add_sub_cancel_left, List.getElem?_append_left inside]

/-- A stamp settles both tags and leaves all else. -/
theorem stamp_became
    {packet : Bytes} (long : minimumLength ≤ packet.length)
    (fits : packet.length < lengthBound) (route : Route) (magic : Bytes) :
    ∃ later, route.stamp magic packet = .ok later ∧
      Became packet [.stamp route magic] later := by
  refine ⟨_, stamp_eq_ok_iff.mpr ⟨long, fits, rfl⟩, ?_⟩
  obtain ⟨type, chonkle, body, pittle, rfl⟩ :=
    exists_assemble_of_minimumLength_le long
  rw [imprint_assemble]
  refine ⟨by rw [genuine, length_assemble, length_assemble], ?_, ?_⟩
  · intro index content
    rw [IsContentIndex, length_assemble] at content
    rcases content with rfl | ⟨after, before⟩
    · rfl
    · obtain ⟨place, rfl⟩ := Nat.exists_eq_add_of_le after
      have inside : place < body.length := by
        simp only [minimumLength, payloadOffset, chonkleOffset, Chonkle.size,
          Pittle.size] at before
        omega
      rw [genuine, getElem?_assemble_payload _ _ _ inside,
        getElem?_assemble_payload _ _ _ inside]
      rfl
  · rw [genuine, tagBytes, chonkleBytes_assemble, pittleBytes_assemble,
      length_assemble]
    rfl

theorem not_isTagIndex_of_isContentIndex
    {length index : Nat} (content : IsContentIndex length index)
    (long : minimumLength ≤ length) : ¬ IsTagIndex length index := by
  have long : 18 ≤ length := long
  rw [IsContentIndex] at content
  rw [IsTagIndex]
  omega

/-- A write outside the tags changes its own byte only. -/
theorem write_became
    {packet : Bytes} (long : minimumLength ≤ packet.length) {index : Nat}
    (content : IsContentIndex packet.length index) (byte : UInt8) :
    Became packet [.write index byte] (packet.set index byte) where
  length_eq := List.length_set
  content_eq other _ := by
    have inside : index < packet.length := by
      have long : 18 ≤ packet.length := long
      rw [IsContentIndex] at content
      omega
    have written :
        lastWritten? [.write index byte] other =
          if index = other then some byte else none :=
      List.findSome?_singleton
    rw [written]
    by_cases same : index = other
    · rw [if_pos same, Option.some_or, ← same, List.getElem?_set_self inside]
    · rw [if_neg same, Option.none_or, List.getElem?_set_ne same]
  tags_eq := by
    have keeps (other : Nat) (inTags : IsTagIndex packet.length other) :
        (packet.set index byte)[other]? = packet[other]? := by
      apply List.getElem?_set_ne
      rintro rfl
      exact not_isTagIndex_of_isContentIndex content long inTags
    obtain ⟨chonkle, pittle⟩ :=
      (tagBytes_eq_iff List.length_set).mpr keeps
    exact Prod.ext chonkle pittle

theorem perform_became
    {packet : Bytes} (long : minimumLength ≤ packet.length)
    (fits : packet.length < lengthBound) {edit : Edit}
    (spares : edit.SparesTags packet.length) :
    ∃ later, edit.perform packet = .ok later ∧
      Became packet [edit] later := by
  cases edit with
  | stamp route magic => exact stamp_became long fits route magic
  | write index byte => exact ⟨_, rfl, write_became long spares byte⟩

/-! ## Rows of edits -/

/-- The steps put together: no edit of the row is refused, and the row as a
whole has made of the packet what its edits say. -/
theorem edited_became
    {packet : Bytes} (long : minimumLength ≤ packet.length)
    (fits : packet.length < lengthBound) {edits : List Edit}
    (spare : ∀ edit ∈ edits, edit.SparesTags packet.length) :
    ∃ later, edited packet edits = .ok later ∧ Became packet edits later := by
  induction edits generalizing packet with
  | nil => exact ⟨packet, rfl, .nil packet⟩
  | cons edit edits inductionHypothesis =>
      obtain ⟨spares, spareLater⟩ := List.forall_mem_cons.mp spare
      obtain ⟨middle, performed, first⟩ := perform_became long fits spares
      -- The length is the same, so the later edits spare the tags where they
      -- stand now.
      rw [← first.length_eq] at long fits spareLater
      obtain ⟨later, ran, rest⟩ := inductionHypothesis long fits spareLater
      refine ⟨later, ?_, first.append rest⟩
      rw [edited, List.foldlM_cons, performed]
      exact ran

/-- The tags are those of the last stamp, so its route lets the packet in. -/
theorem Became.accepts
    {packet later : Bytes} {edits : List Edit} {route : Route} {magic : Bytes}
    (became : Became packet edits later)
    (long : minimumLength ≤ packet.length)
    (fits : packet.length < lengthBound)
    (last : lastContext? edits = some (route, magic)) :
    route.accepts magic later = true := by
  have tags := became.tags_eq
  rw [last, ← became.length_eq] at tags
  obtain ⟨chonkle, pittle⟩ := Prod.mk.inj tags
  rw [← became.length_eq] at long fits
  exact (accepts_iff _ _ _).mpr ⟨⟨long, fits⟩, chonkle, pittle⟩

theorem exists_parts
    {packet : Bytes} (long : minimumLength ≤ packet.length) :
    ∃ type body, packet.head? = some type ∧ payload? packet = some body ∧
      packet = type :: (chonkleBytes packet ++ body ++ pittleBytes packet) := by
  obtain ⟨type, chonkle, body, pittle, rfl⟩ :=
    exists_assemble_of_minimumLength_le long
  refine ⟨type, body, rfl, payload?_assemble _ _ _ _, ?_⟩
  rw [chonkleBytes_assemble, pittleBytes_assemble]
  rfl

/-- A packet with room for the tags, of a length that they can tell, may be
stamped and written to any number of times, as long as no write goes to a tag.
No stamp is refused.  At any time the packet has its first length and consists
of its type, its Chonkle, its payload and its Pittle.  In the end a byte of the
type or of the payload is the last one written there, or else the first one;
and once it has been stamped the tags are those of the last stamp, for which
the packet is let in. -/
theorem last_stamp_and_last_writes_decide_the_packet
    (packet : Bytes) (long : 18 ≤ packet.length)
    (fits : packet.length ≤ 0xffffffff) (edits : List Edit)
    (spare : ∀ edit ∈ edits, edit.SparesTags packet.length) :
    (∀ count, ∃ now type body,
      edited packet (edits.take count) = .ok now ∧
        now.length = packet.length ∧
        now.head? = some type ∧ payload? now = some body ∧
        now = type :: ((now.drop 1).take 15 ++ body ++
          now.drop (packet.length - 2))) ∧
      ∃ final, edited packet edits = .ok final ∧
        (∀ index,
          index = 0 ∨ (16 ≤ index ∧ index < packet.length - 2) →
            final[index]? =
              (lastWritten? edits index).or packet[index]?) ∧
        ((∃ route magic, .stamp route magic ∈ edits) →
          ∃ route magic, lastContext? edits = some (route, magic) ∧
            (final.drop 1).take 15 =
              (route.chonkle magic (UInt32.ofNat packet.length)).toList ∧
            final.drop (packet.length - 2) =
              (route.pittle (UInt32.ofNat packet.length)).toList ∧
            route.accepts magic final = true) := by
  have fits : packet.length < lengthBound := Nat.lt_succ_of_le fits
  constructor
  · intro count
    obtain ⟨now, ran, became⟩ :=
      edited_became long fits fun edit member =>
        spare edit (List.mem_of_mem_take member)
    obtain ⟨type, body, head, payload, parts⟩ :=
      exists_parts (became.length_eq ▸ long)
    rw [pittleBytes, pittleOffset, became.length_eq] at parts
    exact ⟨now, type, body, ran, became.length_eq, head, payload, parts⟩
  · obtain ⟨final, ran, became⟩ := edited_became long fits spare
    refine ⟨final, ran, became.content_eq, ?_⟩
    rintro ⟨someRoute, someMagic, member⟩
    obtain ⟨⟨route, magic⟩, last⟩ := exists_lastContext? member
    have accepted := became.accepts long fits last
    obtain ⟨-, chonkle, pittle⟩ := (accepts_iff _ _ _).mp accepted
    rw [pittleBytes, pittleOffset, became.length_eq] at pittle
    rw [became.length_eq] at chonkle
    exact ⟨route, magic, last, chonkle, pittle, accepted⟩

/-- The only payload byte is written before and between two stamps, and the
type after them. -/
theorem packet_stamped_between_writes_keeps_last_bytes_and_tags :
    let first : Route := ⟨⟨[1, 2, 3, 4], 1000⟩, ⟨[5, 6, 7, 8], 2000⟩⟩
    let packet : Bytes := List.replicate 19 0xee
    let edits : List Edit :=
      [.write 16 0xaa, .stamp first [9], .write 16 0xbb,
        .stamp first.reversed [8, 7], .write 0 0x01]
    ∃ final, edited packet edits = .ok final ∧
      final[0]? = some 0x01 ∧ final[16]? = some 0xbb ∧
      first.reversed.accepts [8, 7] final = true := by
  intro first packet edits
  obtain ⟨-, final, ran, bytes, tags⟩ :=
    last_stamp_and_last_writes_decide_the_packet packet (by decide)
      (by decide) edits (by decide)
  obtain ⟨route, magic, last, -, -, accepted⟩ :=
    tags ⟨first, [9], by decide⟩
  cases last
  exact ⟨final, ran, bytes 0 (by decide), bytes 16 (by decide), accepted⟩

end RelayFrame.Packet
