import RelayFrame.Tool.Run

/-!
# The program

Carries out the task of a command on the real world: the files of the process,
its environment and its source of random bytes.
-/

namespace RelayFrame.Program

open Tool

/-- The library's word for a system error, from its number in either sign and
its description. -/
def systemError (code : UInt32) (details : String) : FileError :=
  let number := if code < 0x80000000 then code.toNat else (0 - code).toNat
  match number with
  | 2 => .notFound
  | 12 => .outOfMemory
  | 13 => .permissionDenied
  | 20 => .notDirectory
  | 21 => .isDirectory
  | 28 => .noSpace
  | 36 => .nameTooLong
  | _ =>
      .other (details.capitalize ++ " (os error " ++ number.repr ++ ")")

def fileErrorOf : IO.Error → FileError
  | .noFileOrDirectory _ code details => systemError code details
  | .inappropriateType _ code details => systemError code details
  | .invalidArgument _ code details => systemError code details
  | .permissionDenied _ code details => systemError code details
  | .resourceExhausted _ code details => systemError code details
  | .noSuchThing _ code details => systemError code details
  | .otherError code details => systemError code details
  | error => .other error.toString

/-- Runs a file operation and keeps its error as a value. -/
def attempt {α : Type} (action : IO α) : IO (Except FileError α) := do
  try
    return .ok (← action)
  catch error =>
    return .error (fileErrorOf error)

def perform : Task → IO Outcome
  | .finish outcome => return outcome
  | .read path next => do
      let content ← attempt (IO.FS.readBinFile path)
      return next (content.map fun bytes => bytes.data.toList)
  | .write path content next => do
      let written ←
        attempt (IO.FS.writeBinFile path ⟨content.toArray⟩)
      return next written
  | .draw count next => do
      let bytes ← IO.getRandomBytes (USize.ofNat count)
      return next bytes.data.toList

def readEnvironment : IO Log.Environment := do
  let debug ← IO.getEnv Log.Settings.debugVariable
  let level ← IO.getEnv Log.Settings.levelVariable
  return fun name =>
    if name = Log.Settings.debugVariable then debug
    else if name = Log.Settings.levelVariable then level
    else none

/-- Prints a transcript and hands back its exit code. -/
def finish (transcript : Transcript) : IO UInt32 := do
  let output ← IO.getStdout
  let errors ← IO.getStderr
  errors.putStr transcript.errors
  output.putStr transcript.output
  output.flush
  return transcript.exitCode

def start (notices : Notices) (arguments : List String) : IO UInt32 := do
  match Request.parse arguments with
  | .error stop =>
      finish (Transcript.ofStop notices arguments stop)
  | .ok request =>
      let environment ← readEnvironment
      let outcome ← perform request.command.task
      finish
        (Transcript.ofOutcome (request.verbosity environment) outcome)

end RelayFrame.Program

def main (arguments : List String) : IO UInt32 :=
  RelayFrame.Program.start .silent arguments
