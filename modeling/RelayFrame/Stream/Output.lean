import RelayFrame.Stream.Item

/-!
# Writing a stream

An output is a buffer that its owner has sized beforehand, and a position in
it.  A write lays the bytes of an item over the buffer; one that does not fit
is refused whole and leaves nothing behind.  A writer changes one output in
place; before it writes a text, in two parts, it makes sure that both fit.
-/

namespace RelayFrame.Stream

inductive WriteError where
  | pastEnd (position capacity : Nat)
  | noRoom (requested available : Nat)
  | textTooLong (length : Nat) (limit : UInt32)
deriving DecidableEq, Repr

def WriteError.message : WriteError → String
  | pastEnd position capacity =>
      "writer position " ++ position.repr ++ " past end of " ++
        capacity.repr ++ "-byte buffer"
  | noRoom requested available =>
      "attempted to write " ++ requested.repr ++ " bytes but only " ++
        available.repr ++ " bytes remain"
  | textTooLong length limit =>
      "string of " ++ length.repr ++ " bytes exceeds maximum of " ++
        limit.toNat.repr

/-- A buffer with a position to write at. -/
structure Output where
  buffer : Bytes
  position : Nat
deriving DecidableEq, Repr

/-- An item to be written, with the most bytes that it may have if it is a
text. -/
structure Entry where
  item : Item
  limit : UInt32 := 0xffffffff
deriving DecidableEq, Repr

/-- How far the text of an entry passes its limit: its length, if it does. -/
def Entry.excess? (entry : Entry) : Option Nat :=
  match entry.item with
  | .text value =>
      let length := (textBytes value).length
      if entry.limit.toNat < length then some length else none
  | _ => none

namespace Output

def ofBuffer (buffer : Bytes) : Output :=
  ⟨buffer, 0⟩

def capacity (output : Output) : Nat :=
  output.buffer.length

def remaining (output : Output) : Nat :=
  output.capacity - output.position

/-- The output at another position, which must not lie behind the end. -/
def seek (output : Output) (position : Nat) : Except WriteError Output :=
  if position ≤ output.capacity then
    .ok { output with position }
  else
    .error (.pastEnd position output.capacity)

def openAt (buffer : Bytes) (position : Nat) : Except WriteError Output :=
  (ofBuffer buffer).seek position

def put (output : Output) (bytes : Bytes) : Except WriteError Output :=
  if bytes.length ≤ output.remaining then
    .ok
      { buffer := splice output.buffer output.position bytes
        position := output.position + bytes.length }
  else
    .error (.noRoom bytes.length output.remaining)

/-- Writes one entry.  The limit of a text is checked before the room. -/
def write (output : Output) (entry : Entry) : Except WriteError Output :=
  match entry.excess? with
  | some length => .error (.textTooLong length entry.limit)
  | none => output.put entry.item.encode

end Output

/-! ## Writing in place -/

/-- A writer changes its output in place: what it has done before it is refused
stays done. -/
abbrev Writer := ExceptT WriteError (StateM Output)

namespace Writer

/-- A change that is made whole or not at all. -/
def ofWrite (write : Output → Except WriteError Output) : Writer Unit := do
  match write (← get) with
  | .ok later => set later
  | .error error => throw error

/-- Goes on only if there is room for the given number of bytes. -/
def ensure (count : Nat) : Writer Unit := do
  let available := (← get).remaining
  unless count ≤ available do
    throw (.noRoom count available)

/-- Writes a text of at most `limit` bytes.  There has to be room for all of it
before its count is written. -/
def text (value : String) (limit : UInt32) : Writer Unit := do
  let body := textBytes value
  if limit.toNat < body.length then
    throw (.textTooLong body.length limit)
  ensure (4 + body.length)
  ofWrite (·.put (littleEndian 4 body.length))
  ofWrite (·.put body)

def entry (entry : Entry) : Writer Unit :=
  match entry.item with
  | .text value => text value entry.limit
  | _ => ofWrite (·.write entry)

end Writer

/-! ## Runs of steps -/

inductive WriteStep where
  | seek (position : Nat)
  | write (entry : Entry)
deriving DecidableEq, Repr

/-- What a step does to an output. -/
def WriteStep.perform : WriteStep → Writer Unit
  | seek position => Writer.ofWrite (·.seek position)
  | write entry => Writer.entry entry

namespace Output

/-- The output after one step, and why the step was refused if it was. -/
def step (output : Output) (action : WriteStep) :
    Output × Option WriteError :=
  match action.perform.run.run output with
  | (.ok _, later) => (later, none)
  | (.error error, later) => (later, some error)

/-- The output after a row of steps, each of which may be refused. -/
def run (output : Output) : List WriteStep → Output
  | [] => output
  | action :: actions => (output.step action).1.run actions

end Output

end RelayFrame.Stream
