import RelayFrame.Proofs.Bytes.LittleEndian
import RelayFrame.Proofs.Net.Travel
import RelayFrame.Stream.Input

/-!
# Items that are read back

An input whose next bytes are the bytes of an item, and that is read for the
shape of this item, yields the item and moves behind those bytes.  What comes
after them does not matter.
-/

namespace RelayFrame.Stream

/-! ## Items and shapes -/

def Item.size : Item → Nat
  | flag _ => 1
  | word8 _ => 1
  | word16 _ => 2
  | word32 _ => 4
  | word64 _ => 8
  | float32 _ => 4
  | float64 _ => 8
  | text value => 4 + value.utf8ByteSize
  | raw bytes => bytes.length
  | address _ => 19

/-- The item as a reader receives it: an address in canonical form without
flow label and scope, and anything else as it was written. -/
def Item.received : Item → Item
  | address value => address value.travelled
  | item => item

/-- The shapes that an item can be read for.  The limit for a text is at least
its length. -/
inductive Shape.Reads : Shape → Item → Prop
  | flag (value : Bool) : Reads .flag (.flag value)
  | word8 (value : UInt8) : Reads .word8 (.word8 value)
  | word16 (value : UInt16) : Reads .word16 (.word16 value)
  | word32 (value : UInt32) : Reads .word32 (.word32 value)
  | word64 (value : UInt64) : Reads .word64 (.word64 value)
  | float32 (bits : UInt32) : Reads .float32 (.float32 bits)
  | float64 (bits : UInt64) : Reads .float64 (.float64 bits)
  | text (limit : UInt32) (value : String)
      (short : value.utf8ByteSize ≤ limit.toNat) :
      Reads (.text limit) (.text value)
  | raw (bytes : Bytes) : Reads (.raw bytes.length) (.raw bytes)
  | address (value : Address) : Reads .address (.address value)

theorem length_textBytes (value : String) :
    (textBytes value).length = value.utf8ByteSize := rfl

theorem textOfBytes?_textBytes (value : String) :
    textOfBytes? (textBytes value) = some value := by
  have valid := value.isValidUTF8
  simp [textOfBytes?, textBytes, String.fromUTF8?, String.fromUTF8, valid]

@[simp]
theorem Item.length_encode (item : Item) :
    item.encode.length = item.size := by
  cases item with
  | flag value => rfl
  | text value =>
      simp only [encode, size, List.length_append, length_littleEndian,
        length_textBytes]
  | address value => exact Vector.length_toList
  | _ => simp [encode, size]

/-! ## Reading what stands ahead -/

namespace Input

def advance (input : Input) (count : Nat) : Input :=
  { input with position := input.position + count }

theorem advance_advance (input : Input) (first second : Nat) :
    (input.advance first).advance second = input.advance (first + second) := by
  rw [advance, advance, advance, Nat.add_assoc]

def tail (input : Input) : Bytes :=
  input.data.drop input.position

theorem length_tail (input : Input) :
    input.tail.length = input.remaining :=
  List.length_drop

theorem tail_advance (input : Input) (count : Nat) :
    (input.advance count).tail = input.tail.drop count := by
  rw [tail, tail, advance, List.drop_drop]

section Ahead

variable {input : Input} {rest : Bytes}

/-- Bytes that are ahead are taken, whatever follows them. -/
theorem take_of_tail
    {bytes : Bytes} (ahead : input.tail = bytes ++ rest) :
    input.take bytes.length = .ok (bytes, input.advance bytes.length) := by
  have enough : bytes.length ≤ input.remaining := by
    rw [← length_tail, ahead, List.length_append]
    omega
  have taken : input.ahead bytes.length = bytes := by
    rw [Input.ahead, ← tail, ahead, List.take_left]
  rw [take, if_pos enough, taken, advance]

theorem takeNumber_of_tail
    {width number : Nat} (fits : number < 256 ^ width)
    (ahead : input.tail = littleEndian width number ++ rest) :
    input.takeNumber width = .ok (number, input.advance width) := by
  have taken := take_of_tail ahead
  rw [length_littleEndian] at taken
  simp only [takeNumber, taken, Except.map, ofLittleEndian_littleEndian fits]

theorem map_takeNumber_of_tail
    (item : Nat → Item) {width number : Nat} (fits : number < 256 ^ width)
    (ahead : input.tail = littleEndian width number ++ rest) :
    ((input.takeNumber width).map fun (value, later) => (item value, later)) =
      .ok (item number, input.advance width) := by
  simp only [takeNumber_of_tail fits ahead, Except.map]

/-- A text that is ahead and keeps to the limit is taken. -/
theorem takeText_of_tail
    {value : String} {limit : UInt32}
    (short : value.utf8ByteSize ≤ limit.toNat)
    (ahead : input.tail = (Item.text value).encode ++ rest) :
    input.takeText limit =
      .ok (value, input.advance (4 + value.utf8ByteSize)) := by
  rw [Item.encode, length_textBytes, List.append_assoc] at ahead
  have countFits : value.utf8ByteSize < 256 ^ 4 :=
    Nat.lt_of_le_of_lt short limit.toNat_lt
  have count := takeNumber_of_tail countFits ahead
  have bodyAhead : (input.advance 4).tail = textBytes value ++ rest := by
    rw [tail_advance, ahead]
    exact List.drop_left' (length_littleEndian 4 _)
  have body := take_of_tail bodyAhead
  rw [length_textBytes] at body
  rw [takeText, count]
  simp only [bind, Except.bind, if_neg (Nat.not_lt.mpr short), body,
    textOfBytes?_textBytes, advance_advance]

theorem takeAddress_of_tail
    {value : Address}
    (ahead : input.tail = (Slot.encode value).toList ++ rest) :
    input.takeAddress = .ok (value.travelled, input.advance 19) := by
  have taken := take_of_tail ahead
  rw [Vector.length_toList] at taken
  simp only [takeAddress, Slot.size, taken, Except.map, Slot.ofBytes_toList,
    Slot.decode_encode]

/-- Reading an item that stands ahead. -/
theorem read_of_tail
    {shape : Shape} {item : Item} (reads : shape.Reads item)
    (ahead : input.tail = item.encode ++ rest) :
    input.read shape = .ok (item.received, input.advance item.size) := by
  cases reads with
  | flag value =>
      have number : value.toNat < 256 ^ 1 := by cases value <;> decide
      have bytes :
          (Item.flag value).encode = littleEndian 1 value.toNat := by
        cases value <;> rfl
      rw [bytes] at ahead
      have read := map_takeNumber_of_tail (.flag <| · != 0) number ahead
      cases value <;> exact read
  | word8 value =>
      have read := map_takeNumber_of_tail (.word8 <| UInt8.ofNat ·)
        value.toNat_lt ahead
      rwa [UInt8.ofNat_toNat] at read
  | word16 value =>
      have read := map_takeNumber_of_tail (.word16 <| UInt16.ofNat ·)
        value.toNat_lt ahead
      rwa [UInt16.ofNat_toNat] at read
  | word32 value =>
      have read := map_takeNumber_of_tail (.word32 <| UInt32.ofNat ·)
        value.toNat_lt ahead
      rwa [UInt32.ofNat_toNat] at read
  | word64 value =>
      have read := map_takeNumber_of_tail (.word64 <| UInt64.ofNat ·)
        value.toNat_lt ahead
      rwa [UInt64.ofNat_toNat] at read
  | float32 bits =>
      have read := map_takeNumber_of_tail (.float32 <| UInt32.ofNat ·)
        bits.toNat_lt ahead
      rwa [UInt32.ofNat_toNat] at read
  | float64 bits =>
      have read := map_takeNumber_of_tail (.float64 <| UInt64.ofNat ·)
        bits.toNat_lt ahead
      rwa [UInt64.ofNat_toNat] at read
  | text limit value short =>
      rw [read, takeText_of_tail short ahead]
      rfl
  | raw bytes =>
      have taken :
          input.take bytes.length =
            .ok (bytes, input.advance bytes.length) := take_of_tail ahead
      rw [read, taken]
      rfl
  | address value =>
      rw [read, takeAddress_of_tail ahead]
      rfl

end Ahead

end Input

end RelayFrame.Stream
