/-!
# Verbosity

How much a process logs.  A setting in the environment turns debug logs on;
without it only the ordinary messages show.  The general variable for log
levels, where it is one of their six names, goes before both.
-/

namespace RelayFrame.Log

/-- How much is logged, least first.  Every event has one of these as its own
level, though never the first. -/
inductive Verbosity where
  | off
  | error
  | warn
  | info
  | debug
  | trace
deriving DecidableEq, Repr

namespace Verbosity

/-- The place of a verbosity, counted from none at all. -/
def rank : Verbosity → Nat
  | off => 0
  | error => 1
  | warn => 2
  | info => 3
  | debug => 4
  | trace => 5

def shows (verbosity level : Verbosity) : Bool :=
  level.rank ≤ verbosity.rank

def name : Verbosity → String
  | off => "off"
  | error => "error"
  | warn => "warn"
  | info => "info"
  | debug => "debug"
  | trace => "trace"

/-- The heading of a log line of the given level. -/
def heading : Verbosity → String
  | off => "OFF"
  | error => "ERROR"
  | warn => "WARN"
  | info => "INFO"
  | debug => "DEBUG"
  | trace => "TRACE"

def all : List Verbosity :=
  [off, error, warn, info, debug, trace]

def ofName? (text : String) : Option Verbosity :=
  all.find? fun verbosity => verbosity.name == text

end Verbosity

abbrev Environment := String → Option String

structure Settings where
  debugLogs : Bool
deriving DecidableEq, Repr

namespace Settings

/-- The variable that turns debug logs on when it is exactly `1`. -/
def debugVariable : String := "NEXT_DEBUG_LOGS"

def levelVariable : String := "RUST_LOG"

def quiet : Settings :=
  ⟨false⟩

def debugging : Settings :=
  ⟨true⟩

/-- The settings that variables ask for, whichever way they are looked up. -/
def ofLookup {m : Type → Type} [Monad m]
    (lookup : String → m (Option String)) : m Settings := do
  return ⟨(← lookup debugVariable) == some "1"⟩

def ofEnvironment (environment : Environment) : Settings :=
  Id.run (ofLookup environment)

/-- The variables that `ofLookup` asks for, in this order. -/
def lookups : List String :=
  ((ofLookup fun name => do
    modify (· ++ [name])
    return none : StateM (List String) Settings).run []).2

def verbosity (settings : Settings) : Verbosity :=
  if settings.debugLogs then .debug else .info

/-- The verbosity of a process with these settings in an environment.  Only the
six names are understood, in lower case; any other value of the variable, also
one that sets levels for parts of the process, is passed over here. -/
def verbosityIn (settings : Settings) (environment : Environment) :
    Verbosity :=
  ((environment levelVariable).bind Verbosity.ofName?).getD
    settings.verbosity

end Settings

end RelayFrame.Log
