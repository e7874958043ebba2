import RelayFrame.Tool.Task

/-!
# Runs

A run of the tool from its arguments to what it prints.  The verbosity decides
which log lines show and nothing else.  Help and complaints about the arguments
are worded by the reader of arguments, so a run takes these texts as they come.
-/

namespace RelayFrame.Tool

/-- What a run leaves behind apart from files.  The log and the complaint stand
on standard error, in this order. -/
structure Transcript where
  exitCode : UInt32
  output : String
  log : List Log.Event
  complaint : List String
deriving DecidableEq, Repr

def versionText : String := "udpx-tools 0.3.0"

/-- What the reader of arguments has to say.  Help depends on its topic only,
but the lines about a usage error may take up anything in the arguments. -/
structure Notices where
  help : List String → String
  usage : List String → UsageError → List String

def Notices.silent : Notices :=
  ⟨fun _ => "", fun _ _ => []⟩

namespace Transcript

def errors (transcript : Transcript) : String :=
  String.join
    ((transcript.log.map Log.Event.text ++ transcript.complaint).map printed)

def ofStop (notices : Notices) (arguments : List String) : Stop → Transcript
  | .usage error => ⟨2, "", [], notices.usage arguments error⟩
  | .help topic => ⟨0, notices.help topic, [], []⟩
  | .version => ⟨0, printed versionText, [], []⟩

def ofOutcome (verbosity : Log.Verbosity) (outcome : Outcome) :
    Transcript :=
  let log := Log.shown verbosity outcome.events
  match outcome.result with
  | .ok text => ⟨0, text, log, []⟩
  | .error failure => ⟨failure.exitCode, "", log, failure.lines⟩

end Transcript

def Request.verbosity (request : Request) (environment : Log.Environment) :
    Log.Verbosity :=
  let settings :=
    if request.debug then Log.Settings.debugging
    else Log.Settings.ofEnvironment environment
  settings.verbosityIn environment

/-- A run of the tool on a file tree, and the tree after it. -/
def run (entropy : Entropy) (environment : Log.Environment)
    (tree : FileTree) (arguments : List String)
    (notices : Notices := .silent) : Transcript × FileTree :=
  match Request.parse arguments with
  | .error stop => (.ofStop notices arguments stop, tree)
  | .ok request =>
      let (outcome, later) := request.command.task.run entropy tree
      (Transcript.ofOutcome (request.verbosity environment) outcome, later)

end RelayFrame.Tool
