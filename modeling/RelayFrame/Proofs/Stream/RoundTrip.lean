import Mathlib.Data.List.Forall2
import RelayFrame.Proofs.Stream.Items
import RelayFrame.Stream.Output

/-!
# Streams that are read back

Writing a list of entries lays their bytes one after the other over the buffer
and touches nothing else, and a reader that starts where the writer started
gets the items back.  The position of an item depends on the sizes of all the
items before it, so both runs are followed from an arbitrary position with
arbitrary bytes around the part that is written.
-/

namespace RelayFrame.Stream

/-! ## Lists of items -/

def encodeAll (items : List Item) : Bytes :=
  items.flatMap Item.encode

def totalSize : List Item → Nat
  | [] => 0
  | item :: items => item.size + totalSize items

theorem length_encodeAll (items : List Item) :
    (encodeAll items).length = totalSize items := by
  induction items with
  | nil => rfl
  | cons item items inductionHypothesis =>
      rw [totalSize, ← inductionHypothesis, ← item.length_encode,
        ← List.length_append]
      rfl

def itemsOf (entries : List Entry) : List Item :=
  entries.map Entry.item

/-- Whether the item of an entry keeps to its limit if it is a text. -/
def Entry.WithinLimit (entry : Entry) : Prop :=
  ∀ value, entry.item = .text value →
    value.utf8ByteSize ≤ entry.limit.toNat

theorem Entry.excess?_eq_none_iff {entry : Entry} :
    entry.excess? = none ↔ entry.WithinLimit := by
  obtain ⟨item, limit⟩ := entry
  cases item with
  | text value =>
      have short :
          WithinLimit ⟨.text value, limit⟩ ↔
            value.utf8ByteSize ≤ limit.toNat := by simp [WithinLimit]
      rw [short, ← Nat.not_lt]
      exact ite_eq_right_iff.trans (by simp [length_textBytes])
  | _ => simp [excess?, WithinLimit]

/-! ## Writing a list -/

namespace Output

def writeAll (output : Output) : List Entry → Except WriteError Output
  | [] => .ok output
  | entry :: entries => do (← output.write entry).writeAll entries

theorem put_of_fits
    {output : Output} {bytes : Bytes}
    (fits : output.position + bytes.length ≤ output.capacity) :
    output.put bytes =
      .ok ⟨splice output.buffer output.position bytes,
        output.position + bytes.length⟩ :=
  if_pos (by rw [remaining]; omega)

/-- An entry within its limit is written whole or does not fit. -/
theorem write_of_withinLimit
    (output : Output) {entry : Entry} (within : entry.WithinLimit) :
    output.write entry = output.put entry.item.encode := by
  rw [write, Entry.excess?_eq_none_iff.mpr within]

theorem openAt_of_le
    {buffer : Bytes} {start : Nat} (inside : start ≤ buffer.length) :
    openAt buffer start = .ok ⟨buffer, start⟩ :=
  if_pos inside

/-- Entries that fit behind the position are laid over the buffer there. -/
theorem writeAll_of_fits
    {buffer : Bytes} {start : Nat} {entries : List Entry}
    (fits : start + totalSize (itemsOf entries) ≤ buffer.length)
    (within : ∀ entry ∈ entries, entry.WithinLimit) :
    writeAll ⟨buffer, start⟩ entries =
      .ok ⟨splice buffer start (encodeAll (itemsOf entries)),
        start + totalSize (itemsOf entries)⟩ := by
  induction entries generalizing buffer start with
  | nil =>
      rw [itemsOf, List.map_nil, encodeAll, List.flatMap_nil, splice_nil]
      rfl
  | cons entry entries inductionHypothesis =>
      let bytes := entry.item.encode
      have sum :
          totalSize (itemsOf (entry :: entries)) =
            bytes.length + totalSize (itemsOf entries) := by
        rw [entry.item.length_encode]
        rfl
      have joined :
          encodeAll (itemsOf (entry :: entries)) =
            bytes ++ encodeAll (itemsOf entries) := rfl
      rw [sum, ← Nat.add_assoc] at fits
      have firstFits : start + bytes.length ≤ buffer.length := by omega
      have wrote :
          write ⟨buffer, start⟩ entry =
            .ok ⟨splice buffer start bytes, start + bytes.length⟩ := by
        rw [write_of_withinLimit _ (within entry (List.mem_cons_self ..))]
        exact put_of_fits firstFits
      have wroteRest :=
        inductionHypothesis (by rwa [length_splice firstFits])
          (fun later member => within later (List.mem_cons_of_mem _ member))
      rw [splice_splice firstFits] at wroteRest
      rw [writeAll, wrote, sum, joined, ← Nat.add_assoc]
      exact wroteRest

/-- Entries fill the part of the buffer that has their size. -/
theorem writeAll_of_split
    {entries : List Entry} (within : ∀ entry ∈ entries, entry.WithinLimit)
    (front back : Bytes) {middle : Bytes}
    (fits : middle.length = totalSize (itemsOf entries)) :
    writeAll ⟨front ++ middle ++ back, front.length⟩ entries =
      .ok ⟨front ++ encodeAll (itemsOf entries) ++ back,
        front.length + totalSize (itemsOf entries)⟩ := by
  have sameLength : (encodeAll (itemsOf entries)).length = middle.length := by
    rw [length_encodeAll, fits]
  have room :
      front.length + totalSize (itemsOf entries) ≤
        (front ++ middle ++ back).length := by
    rw [List.length_append, List.length_append, fits]
    omega
  rw [writeAll_of_fits room within, splice_append sameLength]

end Output

/-! ## Reading a list -/

namespace Input

def readAll (input : Input) :
    List Shape → Except ReadError (List Item × Input)
  | [] => .ok ([], input)
  | shape :: shapes => do
      let (item, later) ← input.read shape
      let (items, last) ← later.readAll shapes
      return (item :: items, last)

theorem readAll_cons_of_ok
    {input later last : Input} {shape : Shape} {shapes : List Shape}
    {item : Item} {items : List Item}
    (first : input.read shape = .ok (item, later))
    (rest : later.readAll shapes = .ok (items, last)) :
    input.readAll (shape :: shapes) = .ok (item :: items, last) := by
  rw [readAll, first]
  simp only [bind, Except.bind, rest]
  rfl

/-- Items that are ahead are read in their order. -/
theorem readAll_of_tail
    {shapes : List Shape} {items : List Item}
    (reads : List.Forall₂ Shape.Reads shapes items)
    {input : Input} {rest : Bytes}
    (ahead : input.tail = encodeAll items ++ rest) :
    input.readAll shapes =
      .ok (items.map Item.received, input.advance (totalSize items)) := by
  induction reads generalizing input with
  | nil => rfl
  | @cons shape item shapes items first _ inductionHypothesis =>
      have bytes :
          encodeAll (item :: items) = item.encode ++ encodeAll items := rfl
      rw [bytes, List.append_assoc] at ahead
      have laterAhead :
          (input.advance item.size).tail = encodeAll items ++ rest := by
        rw [tail_advance, ahead]
        exact List.drop_left' item.length_encode
      have last :
          (input.advance item.size).advance (totalSize items) =
            input.advance (totalSize (item :: items)) :=
        input.advance_advance ..
      rw [← last]
      exact readAll_cons_of_ok (read_of_tail first ahead)
        (inductionHypothesis laterAhead)

end Input

/-- Entries whose sizes fit between a position and the end of a buffer, with
texts that keep to their limits, are all written.  The writer ends behind as
many bytes as the sizes add up to, and the bytes before and after these are
what they were.  A reader of the buffer that starts at the same position and
reads the shapes of the items gets them back, addresses as they travel, and
ends where the writer ended. -/
theorem written_stream_is_read_back
    {buffer : Bytes} {start : Nat} {entries : List Entry}
    {shapes : List Shape}
    (fits : start + totalSize (itemsOf entries) ≤ buffer.length)
    (within : ∀ entry ∈ entries, entry.WithinLimit)
    (reads : List.Forall₂ Shape.Reads shapes (itemsOf entries)) :
    ∃ opened final,
      Output.openAt buffer start = .ok opened ∧
        opened.writeAll entries = .ok final ∧
        final.position = start + totalSize (itemsOf entries) ∧
        final.buffer.length = buffer.length ∧
        final.buffer.take start = buffer.take start ∧
        final.buffer.drop final.position = buffer.drop final.position ∧
        ((Input.ofBytes final.buffer).seek start).readAll shapes =
          .ok ((itemsOf entries).map Item.received,
            ⟨final.buffer, final.position⟩) := by
  let size := totalSize (itemsOf entries)
  let front := buffer.take start
  let middle := (buffer.drop start).take size
  let back := buffer.drop (start + size)
  let written := front ++ encodeAll (itemsOf entries) ++ back
  have split : front ++ middle ++ back = buffer := by
    have back_eq : back = (buffer.drop start).drop size :=
      List.drop_drop.symm
    rw [List.append_assoc, back_eq, List.take_append_drop,
      List.take_append_drop]
  have frontLength : front.length = start := by
    rw [List.length_take]
    omega
  have middleLength : middle.length = size := by
    rw [List.length_take, List.length_drop]
    omega
  have beforeBack :
      (front ++ encodeAll (itemsOf entries)).length = start + size := by
    rw [List.length_append, frontLength, length_encodeAll]
  have writtenLength : written.length = buffer.length := by
    rw [← split, List.length_append, List.length_append, List.length_append,
      List.length_append, length_encodeAll, middleLength]
  have regrouped :
      written = front ++ (encodeAll (itemsOf entries) ++ back) :=
    List.append_assoc ..
  have wrote := Output.writeAll_of_split within front back middleLength
  rw [split, frontLength] at wrote
  have opened : Output.openAt buffer start = .ok ⟨buffer, start⟩ :=
    if_pos (by simp only [Output.capacity, Output.ofBuffer]; omega)
  have sought :
      (Input.ofBytes written).seek start = ⟨written, start⟩ := by
    rw [Input.seek, Input.ofBytes, writtenLength, Nat.min_eq_left (by omega)]
  have ahead :
      Input.tail ⟨written, start⟩ = encodeAll (itemsOf entries) ++ back := by
    change written.drop start = _
    rw [regrouped]
    exact List.drop_left' frontLength
  refine
    ⟨⟨buffer, start⟩, ⟨written, start + size⟩, opened, wrote, rfl,
      writtenLength, ?_, ?_, ?_⟩
  · rw [regrouped]
    exact List.take_left' frontLength
  · exact List.drop_left' beforeBack
  · rw [sought]
    exact Input.readAll_of_tail reads ahead

/-- A text with characters of two and three bytes, a signalling NaN and an
IPv6 address that stands for an IPv4 host, between bytes that stay. -/
theorem mixed_stream_is_read_back :
    let host : Ipv6 := ⟨0, 0, 0, 0, 0, 0xffff, 0x0a01, 0x0203⟩
    let entries : List Entry :=
      [⟨.flag true, 0⟩, ⟨.text "é€", 5⟩, ⟨.float32 0x7fa00001, 0⟩,
        ⟨.address (.ipv6 host 5000 7 3), 0⟩, ⟨.raw [1, 2, 3], 0⟩]
    ∃ opened final,
      Output.openAt (List.replicate 40 0xee) 2 = .ok opened ∧
        opened.writeAll entries = .ok final ∧ final.position = 38 ∧
        final.buffer.take 2 = [0xee, 0xee] ∧
        final.buffer.drop 38 = [0xee, 0xee] ∧
        ((Input.ofBytes final.buffer).seek 2).readAll
            [.flag, .text 9, .float32, .address, .raw 3] =
          .ok ([.flag true, .text "é€", .float32 0x7fa00001,
              .address (.ipv4 ⟨10, 1, 2, 3⟩ 5000), .raw [1, 2, 3]],
            ⟨final.buffer, 38⟩) := by
  intro host entries
  have within : ∀ entry ∈ entries, entry.WithinLimit := by
    intro entry member
    rw [← Entry.excess?_eq_none_iff]
    revert entry
    decide +kernel
  have reads :
      List.Forall₂ Shape.Reads
        [.flag, .text 9, .float32, .address, .raw 3] (itemsOf entries) :=
    .cons (.flag _) <| .cons (.text 9 "é€" (by decide +kernel)) <|
      .cons (.float32 _) <| .cons (.address _) <| .cons (.raw [1, 2, 3]) .nil
  have total : totalSize (itemsOf entries) = 36 := by decide +kernel
  obtain ⟨opened, final, isOpened, wrote, position, -, before, after, read⟩ :=
    @written_stream_is_read_back (List.replicate 40 0xee) 2 entries _
      (by rw [total]; decide) within reads
  have received :
      (itemsOf entries).map Item.received =
        [.flag true, .text "é€", .float32 0x7fa00001,
          .address (.ipv4 ⟨10, 1, 2, 3⟩ 5000), .raw [1, 2, 3]] := by
    decide +kernel
  rw [total] at position
  rw [position] at after read
  rw [received] at read
  exact ⟨opened, final, isOpened, wrote, position, before, after, read⟩

end RelayFrame.Stream
