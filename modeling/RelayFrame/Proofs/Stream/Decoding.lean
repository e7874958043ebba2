import RelayFrame.Proofs.Attempts
import RelayFrame.Proofs.Stream.RoundTrip

/-!
# Reading arbitrary bytes

A read that succeeds has taken one item off the front of what remains, and the
bytes it took are the ones a writer would have put there, with two exceptions:
any byte but zero means that a flag is set, and several slots can hold one
address.  The bytes of a text begin with their own count; every other item has
a width that its shape fixes, and nothing but the bytes that remain decides
whether it can be read.
-/

namespace RelayFrame.Stream

/-! ## Widths and spellings -/

def Shape.width? : Shape → Option Nat
  | flag => some 1
  | word8 => some 1
  | word16 => some 2
  | word32 => some 4
  | word64 => some 8
  | float32 => some 4
  | float64 => some 8
  | text _ => none
  | raw count => some count
  | address => some Slot.size

def Shape.extent (shape : Shape) (bytes : Bytes) : Nat :=
  shape.width?.getD (4 + ofLittleEndian (bytes.take 4))

/-- The bytes that are written in the place of those that an item was read
from. -/
def Shape.recode : Shape → Bytes → Bytes
  | flag, bytes => bytes.map fun byte => if byte = 0 then 0 else 1
  | address, bytes => (Slot.encode (Slot.decode (Slot.ofBytes bytes))).toList
  | _, bytes => bytes

/-- The item with an address in it folded to its canonical form. -/
def Item.canonical : Item → Item
  | address value => address value.canonical
  | item => item

theorem Shape.Reads.size_eq
    {shape : Shape} {item : Item} {width : Nat}
    (reads : shape.Reads item) (fixed : shape.width? = some width) :
    item.size = width := by
  cases reads with
  | text limit value short => cases fixed
  | _ => exact Option.some.inj fixed

theorem textBytes_of_textOfBytes?
    {bytes : Bytes} {value : String}
    (isText : textOfBytes? bytes = some value) :
    textBytes value = bytes := by
  rw [textOfBytes?, String.fromUTF8?] at isText
  split at isText
  · cases isText
    rfl
  · cases isText

theorem littleEndian_ofLittleEndian_of_length
    {bytes : Bytes} {width : Nat} (length : bytes.length = width) :
    littleEndian width (ofLittleEndian bytes) = bytes := by
  rw [← length, littleEndian_ofLittleEndian]

theorem ofLittleEndian_lt_of_length
    {bytes : Bytes} {width : Nat} (length : bytes.length = width) :
    ofLittleEndian bytes < 256 ^ width :=
  length ▸ ofLittleEndian_lt bytes

/-! ## One item -/

namespace Input

section Take

variable {input later : Input} {count : Nat} {bytes : Bytes}

theorem take_eq_ok_iff :
    input.take count = .ok (bytes, later) ↔
      count ≤ input.remaining ∧ input.ahead count = bytes ∧
        input.advance count = later := by
  rw [take]
  split <;> simp [*, advance]

theorem take_of_remaining_lt (short : input.remaining < count) :
    input.take count = .error (.endOfInput count input.remaining) :=
  if_neg (Nat.not_le.mpr short)

theorem length_ahead (enough : count ≤ input.remaining) :
    (input.ahead count).length = count := by
  rw [ahead, ← tail, List.length_take, length_tail, Nat.min_eq_left enough]

theorem ahead_add (first second : Nat) :
    input.ahead (first + second) =
      input.ahead first ++ (input.advance first).ahead second := by
  rw [ahead, ahead, ahead, ← tail, ← tail, tail_advance, List.take_add]

end Take

end Input

/-- Items of a shape have a fixed width, and how their bytes are understood
has no bearing on whether they can be read. -/
structure Shape.Decodes
    (shape : Shape) (width : Nat) (decode : Bytes → Item) : Prop where
  read_eq : ∀ input : Input, input.read shape =
    (input.take width).map fun (bytes, later) => (decode bytes, later)
  reads : ∀ bytes, bytes.length = width → shape.Reads (decode bytes)
  encode_eq : ∀ bytes, bytes.length = width →
    (decode bytes).encode = shape.recode bytes
  received_eq : ∀ bytes, (decode bytes).received = (decode bytes).canonical

theorem Shape.Decodes.of_word
    {shape : Shape} {width : Nat} {item : Nat → Item}
    (read_eq : ∀ input : Input, input.read shape =
      (input.takeNumber width).map fun (value, later) => (item value, later))
    (reads : ∀ value, shape.Reads (item value))
    (encode_eq : ∀ value, value < 256 ^ width →
      (item value).encode = littleEndian width value)
    (recode_eq : ∀ bytes, shape.recode bytes = bytes)
    (received_eq : ∀ value, (item value).received = (item value).canonical) :
    shape.Decodes width fun bytes => item (ofLittleEndian bytes) where
  read_eq input := by
    rw [read_eq, Input.takeNumber]
    cases input.take width <;> rfl
  reads bytes _ := reads (ofLittleEndian bytes)
  encode_eq bytes length := by
    rw [encode_eq _ (ofLittleEndian_lt_of_length length), recode_eq,
      littleEndian_ofLittleEndian_of_length length]
  received_eq bytes := received_eq (ofLittleEndian bytes)

theorem Shape.decodes_flag :
    Shape.flag.Decodes 1 fun bytes => .flag (ofLittleEndian bytes != 0) where
  read_eq input := by
    rw [Input.read, Input.takeNumber]
    cases input.take 1 <;> rfl
  reads _ _ := .flag _
  encode_eq bytes length := by
    obtain ⟨byte, rfl⟩ := List.length_eq_one_iff.mp length
    by_cases zero : byte = 0
    · rw [zero]
      rfl
    · have positive : byte.toNat ≠ 0 := fun same =>
        zero (UInt8.toNat_inj.mp same)
      simp [Item.encode, Shape.recode, ofLittleEndian, zero, positive]
  received_eq _ := rfl

theorem Shape.decodes_address :
    Shape.address.Decodes Slot.size
      fun bytes => .address (Slot.decode (Slot.ofBytes bytes)) where
  read_eq input := by
    rw [Input.read, Input.takeAddress]
    cases input.take Slot.size <;> rfl
  reads _ _ := .address _
  encode_eq _ _ := rfl
  received_eq _ := congrArg Item.address (RelayFrame.Slot.travelled_decode _)

/-- Every shape but a text decodes a fixed number of bytes. -/
theorem Shape.exists_decodes
    {shape : Shape} {width : Nat} (fixed : shape.width? = some width) :
    ∃ decode, shape.Decodes width decode := by
  cases shape with
  | flag => cases fixed; exact ⟨_, decodes_flag⟩
  | word8 =>
      cases fixed
      refine ⟨_, .of_word (fun _ => rfl) (fun _ => .word8 _) ?_
        (fun _ => rfl) fun _ => rfl⟩
      exact fun value small => by
        rw [Item.encode, UInt8.toNat_ofNat_of_lt' small]
  | word16 =>
      cases fixed
      refine ⟨_, .of_word (fun _ => rfl) (fun _ => .word16 _) ?_
        (fun _ => rfl) fun _ => rfl⟩
      exact fun value small => by
        rw [Item.encode, UInt16.toNat_ofNat_of_lt' small]
  | word32 =>
      cases fixed
      refine ⟨_, .of_word (fun _ => rfl) (fun _ => .word32 _) ?_
        (fun _ => rfl) fun _ => rfl⟩
      exact fun value small => by
        rw [Item.encode, UInt32.toNat_ofNat_of_lt' small]
  | word64 =>
      cases fixed
      refine ⟨_, .of_word (fun _ => rfl) (fun _ => .word64 _) ?_
        (fun _ => rfl) fun _ => rfl⟩
      exact fun value small => by
        rw [Item.encode, UInt64.toNat_ofNat_of_lt' small]
  | float32 =>
      cases fixed
      refine ⟨_, .of_word (fun _ => rfl) (fun _ => .float32 _) ?_
        (fun _ => rfl) fun _ => rfl⟩
      exact fun value small => by
        rw [Item.encode, UInt32.toNat_ofNat_of_lt' small]
  | float64 =>
      cases fixed
      refine ⟨_, .of_word (fun _ => rfl) (fun _ => .float64 _) ?_
        (fun _ => rfl) fun _ => rfl⟩
      exact fun value small => by
        rw [Item.encode, UInt64.toNat_ofNat_of_lt' small]
  | text limit => cases fixed
  | raw count =>
      cases fixed
      refine ⟨.raw, fun _ => rfl, ?_, fun _ _ => rfl, fun _ => rfl⟩
      rintro bytes rfl
      exact .raw bytes
  | address => cases fixed; exact ⟨_, decodes_address⟩

/-! ## What a successful read has taken -/

/-- A read has taken an item of the shape off the front of the input. -/
structure Input.Took
    (input : Input) (shape : Shape) (item : Item) (later : Input) : Prop where
  reads : shape.Reads item
  enough : item.size ≤ input.remaining
  encode_eq : item.encode = shape.recode (input.ahead item.size)
  extent_eq : ∀ rest,
    shape.extent (input.ahead item.size ++ rest) = item.size
  received_eq : item.received = item.canonical
  later_eq : later = input.advance item.size

namespace Input

variable {input later : Input}

/-- A successful read of fixed width has taken an item of its shape. -/
theorem took_of_width?
    {shape : Shape} {item : Item} {width : Nat}
    (fixed : shape.width? = some width)
    (succeeds : input.read shape = .ok (item, later)) :
    input.Took shape item later := by
  obtain ⟨decode, decodes⟩ := Shape.exists_decodes fixed
  rw [decodes.read_eq] at succeeds
  obtain ⟨⟨bytes, middle⟩, taken, result⟩ := exists_of_map_eq_ok succeeds
  obtain ⟨enough, rfl, rfl⟩ := take_eq_ok_iff.mp taken
  obtain ⟨rfl, rfl⟩ := Prod.mk.inj result
  have length := length_ahead enough
  have reads := decodes.reads _ length
  have size := reads.size_eq fixed
  exact
    { reads
      enough := by rwa [size]
      encode_eq := by rw [size, decodes.encode_eq _ length]
      extent_eq := fun rest => by rw [Shape.extent, fixed, size]; rfl
      received_eq := decodes.received_eq _
      later_eq := by rw [size] }

theorem takeNumber_eq_ok
    {width value : Nat}
    (succeeds : input.takeNumber width = .ok (value, later)) :
    width ≤ input.remaining ∧ littleEndian width value = input.ahead width ∧
      later = input.advance width := by
  obtain ⟨⟨bytes, middle⟩, taken, result⟩ := exists_of_map_eq_ok succeeds
  obtain ⟨enough, rfl, rfl⟩ := take_eq_ok_iff.mp taken
  obtain ⟨rfl, rfl⟩ := Prod.mk.inj result
  have same := littleEndian_ofLittleEndian_of_length (length_ahead enough)
  exact ⟨enough, same, rfl⟩

/-- A text that was taken fits its limit and stands in front of the input with
its count. -/
theorem takeText_eq_ok
    {limit : UInt32} {value : String}
    (succeeds : input.takeText limit = .ok (value, later)) :
    value.utf8ByteSize ≤ limit.toNat ∧
      4 + value.utf8ByteSize ≤ input.remaining ∧
      input.ahead (4 + value.utf8ByteSize) = (Item.text value).encode ∧
      later = input.advance (4 + value.utf8ByteSize) := by
  rw [takeText] at succeeds
  obtain ⟨⟨count, body⟩, counted, succeeds⟩ := exists_of_bind_eq_ok succeeds
  obtain ⟨countEnough, countBytes, rfl⟩ := takeNumber_eq_ok counted
  simp only at succeeds
  split at succeeds
  · cases succeeds
  · rename_i short
    obtain ⟨⟨bytes, last⟩, taken, succeeds⟩ := exists_of_bind_eq_ok succeeds
    obtain ⟨bodyEnough, rfl, rfl⟩ := take_eq_ok_iff.mp taken
    simp only at succeeds
    split at succeeds
    · rename_i text isText
      cases succeeds
      have same := textBytes_of_textOfBytes? isText
      have size : value.utf8ByteSize = count := by
        rw [← length_textBytes, same, length_ahead bodyEnough]
      have rest : (input.advance 4).remaining = input.remaining - 4 :=
        Nat.sub_add_eq ..
      refine ⟨size ▸ Nat.not_lt.mp short, by omega, ?_, ?_⟩
      · rw [ahead_add, size, ← same, ← countBytes, Item.encode,
          length_textBytes, size]
      · rw [size, advance_advance]
    · cases succeeds

/-- Everything that a successful read says about the bytes ahead of it. -/
theorem took_of_read
    {shape : Shape} {item : Item}
    (succeeds : input.read shape = .ok (item, later)) :
    input.Took shape item later := by
  cases shape with
  | text limit =>
      obtain ⟨⟨value, last⟩, read, result⟩ := exists_of_map_eq_ok succeeds
      obtain ⟨short, enough, bytes, rfl⟩ := takeText_eq_ok read
      obtain ⟨rfl, rfl⟩ := Prod.mk.inj result
      have counted (rest : Bytes) :
          ((Item.text value).encode ++ rest).take 4 =
            littleEndian 4 value.utf8ByteSize := by
        rw [Item.encode, length_textBytes, List.append_assoc]
        exact List.take_left' (length_littleEndian 4 _)
      have countFits : value.utf8ByteSize < 256 ^ 4 :=
        Nat.lt_of_le_of_lt short limit.toNat_lt
      exact
        { reads := .text limit value short
          enough
          encode_eq := bytes.symm
          extent_eq := fun rest => by
            rw [Item.size, bytes, Shape.extent, counted,
              ofLittleEndian_littleEndian countFits]
            rfl
          received_eq := rfl
          later_eq := rfl }
  | _ => exact took_of_width? rfl succeeds

theorem readAll_cons_eq_ok
    {shape : Shape} {shapes : List Shape} {items : List Item}
    (succeeds : input.readAll (shape :: shapes) = .ok (items, later)) :
    ∃ item middle rest, items = item :: rest ∧
      input.read shape = .ok (item, middle) ∧
      middle.readAll shapes = .ok (rest, later) := by
  rw [readAll] at succeeds
  obtain ⟨⟨item, middle⟩, first, succeeds⟩ := exists_of_bind_eq_ok succeeds
  obtain ⟨⟨rest, final⟩, others, result⟩ := exists_of_bind_eq_ok succeeds
  cases result
  exact ⟨item, middle, rest, rfl, first, others⟩

end Input

end RelayFrame.Stream
