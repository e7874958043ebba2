import RelayFrame.Proofs.Stream.Decoding

/-!
# Streams that are written again

Items that were read off the front of any bytes can be written one after the
other into as many bytes as they were read from.  What is written there is what
was read, but a flag is now zero or one and a slot is the one that its address
is written as.  The stream has no marks in it, so which bytes belong to a flag
or to a slot has to be found by going through it from the start.
-/

namespace RelayFrame.Stream

def recodeAll : List Shape → Bytes → Bytes
  | [], bytes => bytes
  | shape :: shapes, bytes =>
      let extent := shape.extent bytes
      shape.recode (bytes.take extent) ++
        recodeAll shapes (bytes.drop extent)

def Shape.limit : Shape → UInt32
  | text limit => limit
  | _ => 0xffffffff

/-- The entries that write items again, with the limits they were read for. -/
def entriesOf (shapes : List Shape) (items : List Item) : List Entry :=
  List.zipWith (fun shape item => ⟨item, shape.limit⟩) shapes items

section Entries

variable {shapes : List Shape} {items : List Item}

theorem itemsOf_entriesOf (reads : List.Forall₂ Shape.Reads shapes items) :
    itemsOf (entriesOf shapes items) = items := by
  induction reads with
  | nil => rfl
  | @cons shape item shapes items _ _ inductionHypothesis =>
      exact congrArg (item :: ·) inductionHypothesis

theorem Shape.Reads.withinLimit
    {shape : Shape} {item : Item} (reads : shape.Reads item) :
    Entry.WithinLimit ⟨item, shape.limit⟩ := by
  intro value isText
  cases reads with
  | text limit value short =>
      cases isText
      exact short
  | _ => cases isText

theorem withinLimit_entriesOf
    (reads : List.Forall₂ Shape.Reads shapes items) :
    ∀ entry ∈ entriesOf shapes items, entry.WithinLimit := by
  induction reads with
  | nil => exact fun _ member => absurd member List.not_mem_nil
  | cons first _ inductionHypothesis =>
      intro entry member
      rcases List.mem_cons.mp member with rfl | later
      · exact first.withinLimit
      · exact inductionHypothesis entry later

end Entries

namespace Input

/-- Reads of a list of shapes have taken as many items off the front of the
input. -/
structure TookAll
    (input : Input) (shapes : List Shape) (items : List Item)
    (later : Input) : Prop where
  reads : List.Forall₂ Shape.Reads shapes items
  enough : totalSize items ≤ input.remaining
  encode_eq : encodeAll items = recodeAll shapes (input.ahead (totalSize items))
  received_eq : items.map Item.received = items.map Item.canonical
  later_eq : later = input.advance (totalSize items)

variable {input last : Input}

theorem tookAll_cons
    {later : Input} {shape : Shape} {shapes : List Shape} {item : Item}
    {items : List Item} (first : input.Took shape item later)
    (rest : later.TookAll shapes items last) :
    input.TookAll (shape :: shapes) (item :: items) last := by
  obtain rfl := first.later_eq
  have enough := rest.enough
  have firstEnough := first.enough
  have remaining :
      (input.advance item.size).remaining = input.remaining - item.size :=
    Nat.sub_add_eq ..
  have length := length_ahead firstEnough
  refine
    { reads := .cons first.reads rest.reads
      enough := by rw [totalSize]; omega
      encode_eq := ?_
      received_eq := ?_
      later_eq := ?_ }
  · rw [totalSize, ahead_add, recodeAll, first.extent_eq,
      List.take_left' length, List.drop_left' length, ← first.encode_eq,
      ← rest.encode_eq]
    rfl
  · rw [List.map_cons, List.map_cons, first.received_eq, rest.received_eq]
  · rw [rest.later_eq, advance_advance, totalSize]

/-- A list of reads that succeeds has taken its items one behind the other. -/
theorem tookAll_of_readAll
    {shapes : List Shape} {items : List Item}
    (succeeds : input.readAll shapes = .ok (items, last)) :
    input.TookAll shapes items last := by
  induction shapes generalizing input items with
  | nil =>
      cases succeeds
      exact ⟨.nil, Nat.zero_le _, rfl, rfl, rfl⟩
  | cons shape shapes inductionHypothesis =>
      obtain ⟨item, later, rest, rfl, first, others⟩ :=
        readAll_cons_eq_ok succeeds
      exact tookAll_cons (took_of_read first) (inductionHypothesis others)

end Input

/-- Entries whose sizes add up to the size of a buffer replace all of it. -/
theorem Output.writeAll_fills
    {buffer : Bytes} {entries : List Entry}
    (within : ∀ entry ∈ entries, entry.WithinLimit)
    (length : buffer.length = totalSize (itemsOf entries)) :
    (ofBuffer buffer).writeAll entries =
      .ok ⟨encodeAll (itemsOf entries), buffer.length⟩ := by
  have wrote := writeAll_of_split within [] [] length
  rwa [List.append_nil, List.append_nil, List.nil_append, List.nil_append,
    List.length_nil, Nat.zero_add, ← length] at wrote

/-- Items that were read from the start of any bytes, for any shapes, can be
written again into as many zeros as they were read from, and fill them.  What
is then in the buffer are the bytes they were read from, with flags and slots
in the form they are written in, and it reads as the same items again, with
addresses in canonical form. -/
theorem read_stream_is_written_again
    {data : Bytes} {shapes : List Shape} {items : List Item} {last : Input}
    (succeeds : (Input.ofBytes data).readAll shapes = .ok (items, last)) :
    ∃ final,
      (Output.ofBuffer (List.replicate last.position 0)).writeAll
          (entriesOf shapes items) = .ok final ∧
        last.position ≤ data.length ∧
        final.position = last.position ∧
        final.remaining = 0 ∧
        final.buffer = recodeAll shapes (data.take last.position) ∧
        (Input.ofBytes final.buffer).readAll shapes =
          .ok (items.map Item.canonical,
            ⟨final.buffer, final.buffer.length⟩) := by
  have took := Input.tookAll_of_readAll succeeds
  have items_eq := itemsOf_entriesOf took.reads
  have position : last.position = totalSize items := by
    rw [took.later_eq]
    exact Nat.zero_add _
  have length : (encodeAll items).length = last.position := by
    rw [length_encodeAll, position]
  have wrote :
      (Output.ofBuffer (List.replicate last.position 0)).writeAll
          (entriesOf shapes items) =
        .ok ⟨encodeAll items, last.position⟩ := by
    have fills :
        (List.replicate last.position (0 : UInt8)).length =
          totalSize (itemsOf (entriesOf shapes items)) := by
      rw [List.length_replicate, items_eq, position]
    have wrote :=
      Output.writeAll_fills (withinLimit_entriesOf took.reads) fills
    rwa [items_eq, List.length_replicate] at wrote
  have ahead :
      (Input.ofBytes (encodeAll items)).tail = encodeAll items ++ [] :=
    (List.append_nil _).symm
  have readAgain := Input.readAll_of_tail took.reads ahead
  refine ⟨_, wrote, ?_, rfl, ?_, ?_, ?_⟩
  · rw [position]
    exact took.enough
  · rw [Output.remaining, Output.capacity, length, Nat.sub_self]
  · rw [took.encode_eq, position]
    rfl
  · rw [readAgain, took.received_eq, Input.advance, length_encodeAll,
      Input.ofBytes, Nat.zero_add]

/-- A flag that is spelled with a seven, and a slot of the IPv6 family with an
address in it that stands for an IPv4 host, before a byte that is not read. -/
theorem loosely_spelled_stream_is_written_again :
    let shapes : List Shape := [.flag, .text 2, .address, .raw 0]
    let spelled : Bytes :=
      [7, 2, 0, 0, 0, 0xc3, 0xa9, 2, 0, 0, 0, 0, 0, 0, 0, 0, 0, 0, 0xff, 0xff,
        10, 1, 2, 3, 0x88, 0x13]
    let written : Bytes :=
      [1, 2, 0, 0, 0, 0xc3, 0xa9, 1, 10, 1, 2, 3, 0x88, 0x13, 0, 0, 0, 0, 0, 0,
        0, 0, 0, 0, 0, 0]
    ∃ items final,
      (Input.ofBytes (spelled ++ [9])).readAll shapes =
          .ok (items, ⟨spelled ++ [9], 26⟩) ∧
        (Output.ofBuffer (List.replicate 26 0)).writeAll
            (entriesOf shapes items) = .ok final ∧
        final.buffer = written ∧
        (Input.ofBytes written).readAll shapes =
          .ok ([.flag true, .text "é", .address (.ipv4 ⟨10, 1, 2, 3⟩ 5000),
            .raw []], ⟨written, 26⟩) := by
  intro shapes spelled written
  let host : Ipv6 := ⟨0, 0, 0, 0, 0, 0xffff, 0x0a01, 0x0203⟩
  let items : List Item :=
    [.flag true, .text "é", .address (.ipv6 host 5000 0 0), .raw []]
  have succeeds :
      (Input.ofBytes (spelled ++ [9])).readAll shapes =
        .ok (items, ⟨spelled ++ [9], 26⟩) := by
    decide +kernel
  obtain ⟨final, wrote, -, -, -, buffer, readAgain⟩ :=
    read_stream_is_written_again succeeds
  have written_eq : final.buffer = written := by
    rw [buffer]
    decide +kernel
  have canonical :
      items.map Item.canonical =
        [.flag true, .text "é", .address (.ipv4 ⟨10, 1, 2, 3⟩ 5000),
          .raw []] := by
    decide +kernel
  rw [written_eq, canonical] at readAgain
  exact ⟨items, final, succeeds, wrote, written_eq, readAgain⟩

end RelayFrame.Stream
