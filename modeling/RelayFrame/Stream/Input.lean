import RelayFrame.Stream.Item

/-!
# Reading a stream

An input is a byte string and a position in it.  Every read is checked against
the bytes that remain.  A read that fails says why, and since it hands back no
input, its caller still holds the one from before.  A reader holds one input
and moves it in place; for a text, which is read in two parts, it has to go
back by itself.
-/

namespace RelayFrame.Stream

inductive ReadError where
  | endOfInput (requested available : Nat)
  | textTooLong (length limit : UInt32)
  | invalidText (length : Nat)
deriving DecidableEq, Repr

def ReadError.message : ReadError → String
  | endOfInput requested available =>
      "attempted to read " ++ requested.repr ++ " bytes but only " ++
        available.repr ++ " bytes available"
  | textTooLong length limit =>
      "string length " ++ length.toNat.repr ++ " exceeds maximum of " ++
        limit.toNat.repr
  | invalidText length =>
      "string of " ++ length.repr ++ " bytes is not valid utf-8"

/-- A byte string with a position to read from. -/
structure Input where
  data : Bytes
  position : Nat
deriving DecidableEq, Repr

namespace Input

def ofBytes (data : Bytes) : Input :=
  ⟨data, 0⟩

def remaining (input : Input) : Nat :=
  input.data.length - input.position

def isEmpty (input : Input) : Bool :=
  input.remaining == 0

/-- The input at another position, or at its end if that lies before the
position. -/
def seek (input : Input) (position : Nat) : Input :=
  { input with position := min position input.data.length }

/-- The next bytes, as they stand. -/
def ahead (input : Input) (count : Nat) : Bytes :=
  (input.data.drop input.position).take count

def take (input : Input) (count : Nat) : Except ReadError (Bytes × Input) :=
  if count ≤ input.remaining then
    .ok (input.ahead count,
      { input with position := input.position + count })
  else
    .error (.endOfInput count input.remaining)

def takeNumber (input : Input) (width : Nat) :
    Except ReadError (Nat × Input) :=
  (input.take width).map fun (bytes, later) => (ofLittleEndian bytes, later)

/-- Reads a text of at most `limit` bytes.  Its length is checked against the
limit and against the bytes that remain before any of it is taken. -/
def takeText (input : Input) (limit : UInt32) :
    Except ReadError (String × Input) := do
  let (count, body) ← input.takeNumber 4
  if limit.toNat < count then
    .error (.textTooLong (UInt32.ofNat count) limit)
  else
    let (bytes, later) ← body.take count
    match textOfBytes? bytes with
    | some value => .ok (value, later)
    | none => .error (.invalidText count)

def takeAddress (input : Input) : Except ReadError (Address × Input) :=
  (input.take Slot.size).map fun (bytes, later) =>
    (Slot.decode (Slot.ofBytes bytes), later)

def read (input : Input) : Shape → Except ReadError (Item × Input)
  | .flag => (input.takeNumber 1).map fun (number, later) =>
      (.flag (number != 0), later)
  | .word8 => (input.takeNumber 1).map fun (number, later) =>
      (.word8 (UInt8.ofNat number), later)
  | .word16 => (input.takeNumber 2).map fun (number, later) =>
      (.word16 (UInt16.ofNat number), later)
  | .word32 => (input.takeNumber 4).map fun (number, later) =>
      (.word32 (UInt32.ofNat number), later)
  | .word64 => (input.takeNumber 8).map fun (number, later) =>
      (.word64 (UInt64.ofNat number), later)
  | .float32 => (input.takeNumber 4).map fun (number, later) =>
      (.float32 (UInt32.ofNat number), later)
  | .float64 => (input.takeNumber 8).map fun (number, later) =>
      (.float64 (UInt64.ofNat number), later)
  | .text limit => (input.takeText limit).map fun (value, later) =>
      (.text value, later)
  | .raw count => (input.take count).map fun (bytes, later) =>
      (.raw bytes, later)
  | .address => input.takeAddress.map fun (value, later) =>
      (.address value, later)

end Input

/-! ## Reading in place -/

/-- A reader moves its input in place: where it is when a read fails is where
it was moved to. -/
abbrev Reader := ExceptT ReadError (StateM Input)

namespace Reader

/-- A read that moves the input only if it succeeds. -/
def ofRead {α : Type} (read : Input → Except ReadError (α × Input)) :
    Reader α := do
  match read (← get) with
  | .ok (value, later) =>
      set later
      return value
  | .error error => throw error

/-- Reads a text of at most `limit` bytes, and stays behind what it has taken
if it fails. -/
def textBody (limit : UInt32) : Reader String := do
  let count ← ofRead (·.takeNumber 4)
  if limit.toNat < count then
    throw (.textTooLong (UInt32.ofNat count) limit)
  let bytes ← ofRead (·.take count)
  match textOfBytes? bytes with
  | some value => return value
  | none => throw (.invalidText count)

/-- Reads a text of at most `limit` bytes, and goes back if it fails. -/
def text (limit : UInt32) : Reader String := do
  let start := (← get).position
  try textBody limit
  catch error =>
    modify ({ · with position := start })
    throw error

def item : Shape → Reader Item
  | .text limit => do return .text (← text limit)
  | shape => ofRead (·.read shape)

end Reader

/-! ## Runs of steps -/

inductive ReadStep where
  | seek (position : Nat)
  | save
  | restore (age : Nat := 0)
  | read (shape : Shape)
deriving DecidableEq, Repr

/-- The input a reader holds, and those it keeps aside, the latest first. -/
structure Reading where
  current : Input
  kept : List Input
deriving DecidableEq, Repr

namespace Reading

def ofBytes (data : Bytes) : Reading :=
  ⟨Input.ofBytes data, [Input.ofBytes data]⟩

/-- The reading after one step, and the item read if the step reads one. -/
def step (reading : Reading) :
    ReadStep → Reading × Except ReadError (Option Item)
  | .seek position =>
      ({ reading with current := reading.current.seek position }, .ok none)
  | .save =>
      ({ reading with kept := reading.current :: reading.kept }, .ok none)
  | .restore age =>
      ({ reading with current := reading.kept.getD age reading.current },
        .ok none)
  | .read shape =>
      let (result, later) := (Reader.item shape).run.run reading.current
      ({ reading with current := later }, result.map some)

/-- The reading after a row of steps, and what each of them gave. -/
def run (reading : Reading) :
    List ReadStep → Reading × List (Except ReadError (Option Item))
  | [] => (reading, [])
  | action :: actions =>
      let (later, result) := reading.step action
      let (last, results) := later.run actions
      (last, result :: results)

end Reading

end RelayFrame.Stream
