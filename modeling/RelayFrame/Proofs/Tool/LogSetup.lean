import RelayFrame.Proofs.Bytes.HexText
import RelayFrame.Proofs.Tool.DebugFlag
import RelayFrame.Tool.Host
import RelayFrame.Tool.Run

/-!
# Runs that log differently

Three things settle how much a run logs: the variable that names a verbosity
goes before the debug flag and the variable for debug logs, either of which is
enough for debug logs.  None of them has any other effect.  The command is
carried out in the same way, and of the same events more or fewer are shown.
-/

namespace RelayFrame

/-! ## Events shown at two verbosities -/

namespace Log

end Log

namespace Tool

/-! ## What settles the verbosity -/

/-- All that can be said on logging when the tool is run: the verbosity that
the environment names, the variable for debug logs, and whether the debug flag
is given in front of the command. -/
structure LogSetup where
  level : Option Log.Verbosity
  debugSetting : Option String
  debugFlag : Bool
deriving DecidableEq, Repr

namespace LogSetup

def environment (setup : LogSetup) (others : Log.Environment) :
    Log.Environment := fun name =>
  if name = "RUST_LOG" then setup.level.map Log.Verbosity.name
  else if name = "NEXT_DEBUG_LOGS" then setup.debugSetting
  else others name

/-- Arguments with this setup; the first ones stand in front of the command. -/
def arguments (setup : LogSetup) (before after : List String) :
    List String :=
  if setup.debugFlag then before ++ "--debug" :: after else before ++ after

def verbosity (setup : LogSetup) : Log.Verbosity :=
  setup.level.getD <|
    if setup.debugFlag = true ∨ setup.debugSetting = some "1" then .debug
    else .info

end LogSetup

/-! ## Runs that differ in their setup -/

def ending (entropy : Entropy) (tree : FileTree) (verbosity : Log.Verbosity)
    (command : Command) : Transcript × FileTree :=
  let (outcome, later) := command.task.run entropy tree
  (Transcript.ofOutcome verbosity outcome, later)

section Setups

variable {setup : LogSetup} {others : Log.Environment} {notices : Notices}
variable {before after : List String}
variable (entropy : Entropy) (tree : FileTree)

end Setups

section Runs

variable (entropy otherEntropy : Entropy) (others : Log.Environment)
variable (notices : Notices) (tree : FileTree) (first second : LogSetup)
variable {before after : List String}

end Runs

end Tool

end RelayFrame
