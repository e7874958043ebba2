import RelayFrame.Net.Slot
import RelayFrame.Report.Inspection
import RelayFrame.Report.Tags
import RelayFrame.Tool.Command
import RelayFrame.Tool.Failure

/-!
# Tasks

A command is carried out in two stages.  First it is turned into a task, which
touches the world once at most: it reads a file, writes a file or draws random
bytes, and then knows its outcome.  Then the task is run, on a file tree held
as a value here and on a real one by the program.  Everything that can fail
before a file is written fails in the first stage.
-/

namespace RelayFrame.Tool

/-- What a command comes to: its log, and its printed text or its failure. -/
structure Outcome where
  events : List Log.Event
  result : Except Failure String

/-- A command that has been made ready. -/
inductive Task where
  | finish (outcome : Outcome)
  | read (path : String) (next : Except FileError Bytes → Outcome)
  | write (path : String) (content : Bytes)
      (next : Except FileError Unit → Outcome)
  | draw (count : Nat) (next : Bytes → Outcome)

/-- A line of printed text. -/
def printed (text : String) : String :=
  text ++ "\n"

/-- Builds and stamps a packet between two addresses, and logs it. -/
def craft (packetType : UInt8) (payload magic : Bytes)
    (sender receiver : Address) :
    Except Failure (Bytes × List Log.Event) :=
  match Packet.build packetType payload magic
      (Route.between sender receiver) with
  | .ok packet => .ok (packet, [.stamped packet.length packetType])
  | .error error => .error (.build error)

/-! ## The commands -/

def tagsResult (texts : RouteTexts) (packetLength : UInt32)
    (format : Format) : Except Failure String := do
  let magic ← readMagic texts.magic
  let sender ← readAddress texts.sender
  let receiver ← readAddress texts.receiver
  let tags := Report.Tags.compute magic sender receiver packetLength
  match format with
  | .json => return printed tags.json
  | .pretty => return printed tags.pretty

def stampResult (texts : RouteTexts) (packetType : UInt8)
    (payload : String) : Except Failure (Bytes × List Log.Event) := do
  let magic ← readMagic texts.magic
  let body ← readPayload payload
  let sender ← readAddress texts.sender
  let receiver ← readAddress texts.receiver
  craft packetType body magic sender receiver

def wroteOutcome (path : String) (packet : Bytes)
    (events : List Log.Event) : Except FileError Unit → Outcome
  | .ok () => ⟨events ++ [.wrote path packet.length], .ok ""⟩
  | .error error => ⟨events, .error (.write path error)⟩

def readClaim (texts : RouteTexts) : Except Failure Report.Claim := do
  let magic ← readMagic texts.magic
  let sender ← readAddress texts.sender
  let receiver ← readAddress texts.receiver
  return ⟨magic, Route.between sender receiver⟩

def readOptionalClaim :
    Option RouteTexts → Except Failure (Option Report.Claim)
  | none => .ok none
  | some texts => (readClaim texts).map some

def inspectionOutcome (packet : Bytes) (claim : Option Report.Claim)
    (format : Format) : Outcome :=
  let (inspection, events) := Report.inspect packet claim
  match format with
  | .json => ⟨events, .ok (printed inspection.json)⟩
  | .pretty => ⟨events, .ok (printed inspection.pretty)⟩

/-- The outcome once the packet file has been read.  The file comes before the
texts of the route. -/
def filterOutcome (path : String) (texts : Option RouteTexts)
    (format : Format) : Except FileError Bytes → Outcome
  | .error error => ⟨[], .error (.read path error)⟩
  | .ok packet =>
      match readOptionalClaim texts with
      | .error failure => ⟨[], .error failure⟩
      | .ok claim => inspectionOutcome packet claim format

def addressResult (text : String) : Except Failure String := do
  let address ← readAddress text
  return printed address.text ++
    printed (Hex.encode (Slot.encode address).toList)

/-- The greatest size of a buffer, which is a signed number of 64 bits. -/
def bufferLimit : Nat := 0x7fffffffffffffff

def Command.task : Command → Task
  | tags texts packetLength format =>
      .finish ⟨[], tagsResult texts packetLength format⟩
  | stamp texts packetType payload out =>
      match stampResult texts packetType payload with
      | .error failure => .finish ⟨[], .error failure⟩
      | .ok (packet, events) =>
          match out with
          | some path =>
              .write path packet (wroteOutcome path packet events)
          | none =>
              .finish ⟨events, .ok (printed (Hex.encode packet))⟩
  | filter path texts format =>
      .read path (filterOutcome path texts format)
  | address text => .finish ⟨[], addressResult text⟩
  | magic count =>
      if bufferLimit < count then
        .finish ⟨[], .error .capacity⟩
      else
        .draw count fun bytes => ⟨[], .ok (printed (Hex.encode bytes))⟩

/-! ## Running a task -/

/-- A source of random bytes, which gives as many as it is asked for. -/
abbrev Entropy := (count : Nat) → Vector UInt8 count

/-- The outcome of a task run on a file tree, and the tree after it. -/
def Task.run (entropy : Entropy) (tree : FileTree) :
    Task → Outcome × FileTree
  | finish outcome => (outcome, tree)
  | read path next => (next (tree.read path), tree)
  | write path content next =>
      match tree.write path content with
      | .ok later => (next (.ok ()), later)
      | .error error => (next (.error error), tree)
  | draw count next => (next (entropy count).toList, tree)

end RelayFrame.Tool
