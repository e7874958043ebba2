import RelayFrame.Bytes.Hex
import RelayFrame.Packet.Build
import RelayFrame.Tool.FileTree

/-!
# Failures

What can stop the tool once its arguments are understood.  A failure has a
summary, which names the argument or the file at fault, and often a cause that
says what was wrong with it.
-/

namespace RelayFrame.Tool

/-- Why the tool gave up.  The last of these is a number of bytes that no
buffer can hold. -/
inductive Failure where
  | magic (text : String) (cause : Hex.DecodeError)
  | payload (cause : Hex.DecodeError)
  | address (text : String) (cause : AddressError)
  | build (cause : Packet.BuildError)
  | read (path : String) (cause : FileError)
  | write (path : String) (cause : FileError)
  | capacity
deriving DecidableEq, Repr

namespace Failure

def summary : Failure → String
  | magic text _ => "invalid magic hex " ++ Text.quote text
  | payload _ => "invalid payload hex"
  | address text _ => "parse address " ++ Text.quote text
  | build cause => cause.message
  | read path _ => "read packet " ++ path
  | write path _ => "write packet " ++ path
  | capacity => "capacity overflow"

def cause? : Failure → Option String
  | magic _ cause => some cause.message
  | payload cause => some cause.message
  | address _ cause => some cause.message
  | build _ => none
  | read _ cause => some cause.message
  | write _ cause => some cause.message
  | capacity => none

/-- Whether the run breaks off where the failure happens, and does not get to
report it in its own way. -/
def isPanic : Failure → Bool
  | capacity => true
  | _ => false

/-- The failure as the last lines of a run tell it.  Of a panic these are only
its message, which stands between lines on where it happened. -/
def lines (failure : Failure) : List String :=
  if failure.isPanic then
    [failure.summary]
  else
    ("Error: " ++ failure.summary) ::
      match failure.cause? with
      | some cause => ["", "Caused by:", "    " ++ cause]
      | none => []

def exitCode (failure : Failure) : UInt32 :=
  if failure.isPanic then 101 else 1

theorem exitCode_ne_zero (failure : Failure) : failure.exitCode ≠ 0 := by
  rw [exitCode]
  split <;> decide

end Failure

def readMagic (text : String) : Except Failure Bytes :=
  (Hex.decode (Text.trim text)).mapError (Failure.magic text)

def readPayload (text : String) : Except Failure Bytes :=
  (Hex.decode (Text.trim text)).mapError Failure.payload

def readAddress (text : String) : Except Failure Address :=
  (Address.parse text).mapError (Failure.address text)

end RelayFrame.Tool
