import RelayFrame.Text.Numeral

/-!
# Arguments

The grammar of a command's arguments.  Every option takes one value, given
after an equals sign or as the next argument, and is given at most once; what
is not an option is an operand, and after `--` everything is.  Values are
checked as they are met, so the first thing wrong decides the answer, unless
a request for help comes before it.
-/

namespace RelayFrame.Tool

inductive UsageError where
  | unknownCommand (name : String)
  | missingCommand
  | unknownOption (text : String)
  | repeatedOption (name : String)
  | missingOption (name : String)
  | missingValue (name : String)
  | badValue (name value : String)
  | missingOperand
  | unexpectedOperand (text : String)
deriving DecidableEq, Repr

/-- Why no command comes out of the arguments.  The topic of help is a command
or, where it is empty, the tool itself. -/
inductive Stop where
  | usage (error : UsageError)
  | help (topic : List String)
  | version
deriving DecidableEq, Repr

/-- The stop inside a command, as the whole tool comes to it. -/
def Stop.within (word : String) : Stop → Stop
  | help topic => help (word :: topic)
  | stop => stop

/-! ## Words -/

/-- One argument, as far as its own form tells.  Behind the separator
everything is an operand, and of one-letter options only the first is looked
at. -/
inductive Word where
  | separator
  | long (name : String) (value : Option String)
  | short (letter : Char)
  | plain
deriving DecidableEq, Repr

def Word.ofString (argument : String) : Word :=
  match argument.toList with
  | ['-', '-'] => .separator
  | '-' :: '-' :: option =>
      let name := String.ofList (option.takeWhile (· ≠ '='))
      match option.dropWhile (· ≠ '=') with
      | _ :: value => .long name (some (String.ofList value))
      | [] => .long name none
  | '-' :: letter :: _ => .short letter
  | _ => .plain

/-- Whether an argument can be the value of the option before it. -/
def isPlain (argument : String) : Bool :=
  Word.ofString argument == .plain

/-! ## Values -/

/-- What the value of an option or operand has to be.  A path is not empty, and
a number lies below a bound. -/
inductive ValueKind where
  | text
  | path
  | oneOf (words : List String)
  | signed (bound : Nat)
  | unsigned (bound : Nat)
deriving DecidableEq, Repr

/-- The number that a text spells, if it lies below the bound. -/
def readSignedBelow? (bound : Nat) (text : String) : Option Nat :=
  match Numeral.readSigned? text.toList with
  | some (.ofNat value) => if value < bound then some value else none
  | _ => none

def readUnsignedBelow? (bound : Nat) (text : String) : Option Nat :=
  match Numeral.readUnsigned? text.toList with
  | some value => if value < bound then some value else none
  | none => none

def ValueKind.admits : ValueKind → String → Bool
  | text, _ => true
  | path, value => value != ""
  | oneOf words, value => words.contains value
  | signed bound, value => (readSignedBelow? bound value).isSome
  | unsigned bound, value => (readUnsignedBelow? bound value).isSome

/-! ## Scanning -/

structure Grammar where
  options : List (String × ValueKind)
  operands : List ValueKind
deriving DecidableEq, Repr

structure Arguments where
  options : List (String × String)
  operands : List String
  debug : Bool
deriving DecidableEq, Repr

namespace Arguments

def empty : Arguments :=
  ⟨[], [], false⟩

def value? (arguments : Arguments) (name : String) : Option String :=
  arguments.options.lookup name

def require (arguments : Arguments) (name : String) : Except Stop String :=
  match arguments.value? name with
  | some value => .ok value
  | none => .error (.usage (.missingOption name))

def addOption (arguments : Arguments) (name : String) (kind : ValueKind)
    (value : String) : Except Stop Arguments :=
  if (arguments.value? name).isSome then
    .error (.usage (.repeatedOption name))
  else if kind.admits value then
    .ok { arguments with options := arguments.options ++ [(name, value)] }
  else
    .error (.usage (.badValue name value))

def addOperand (grammar : Grammar) (arguments : Arguments) (value : String) :
    Except Stop Arguments :=
  match grammar.operands[arguments.operands.length]? with
  | some kind =>
      if kind.admits value then
        .ok { arguments with operands := arguments.operands ++ [value] }
      else
        .error (.usage (.badValue "operand" value))
  | none => .error (.usage (.unexpectedOperand value))

/-- The debug flag, which is given once at most. -/
def addDebug (arguments : Arguments) : Except Stop Arguments :=
  if arguments.debug then
    .error (.usage (.repeatedOption "debug"))
  else
    .ok { arguments with debug := true }

/-- A flag that stands where a command's own options may. -/
def addFlag (arguments : Arguments) (name : String) : Except Stop Arguments :=
  if name = "help" then .error (.help [])
  else if name = "debug" then arguments.addDebug
  else .error (.usage (.unknownOption name))

/-- Sorts the arguments of a command, on top of those already found. -/
def scan (grammar : Grammar) :
    Arguments → List String → Except Stop Arguments
  | found, [] => .ok found
  | found, argument :: rest =>
      match Word.ofString argument with
      | .separator => rest.foldlM (addOperand grammar) found
      | .plain => do
          let found ← addOperand grammar found argument
          scan grammar found rest
      | .short letter =>
          if letter = 'h' then .error (.help [])
          else .error (.usage (.unknownOption argument))
      | .long name given =>
          match grammar.options.lookup name, given with
          | some kind, some value => do
              let found ← found.addOption name kind value
              scan grammar found rest
          | some kind, none =>
              match rest with
              | value :: later =>
                  if isPlain value then do
                    let found ← found.addOption name kind value
                    scan grammar found later
                  else
                    .error (.usage (.missingValue name))
              | [] => .error (.usage (.missingValue name))
          | none, some _ => .error (.usage (.unknownOption argument))
          | none, none => do
              let found ← found.addFlag name
              scan grammar found rest

end Arguments

end RelayFrame.Tool
