import RelayFrame.Tool.Arguments

/-!
# Commands

What the tool can be asked to do.  A command keeps its texts as they were
given; they are only read when it is carried out.
-/

namespace RelayFrame.Tool

inductive Format where
  | json
  | pretty
deriving DecidableEq, Repr

def Format.word : Format → String
  | json => "json"
  | pretty => "pretty"

def Format.ofWord? (word : String) : Option Format :=
  [json, pretty].find? fun format => format.word == word

/-- The magic and the addresses of a route, as texts. -/
structure RouteTexts where
  magic : String
  sender : String
  receiver : String
deriving DecidableEq, Repr

/-- What the tool is asked to do. -/
inductive Command where
  | tags (texts : RouteTexts) (packetLength : UInt32) (format : Format)
  | stamp (texts : RouteTexts) (packetType : UInt8) (payload : String)
      (out : Option String)
  | filter (path : String) (texts : Option RouteTexts) (format : Format)
  | address (text : String)
  | magic (count : Nat)
deriving DecidableEq, Repr

/-- A command, and whether debug logs were asked for along with it. -/
structure Request where
  debug : Bool
  command : Command
deriving DecidableEq, Repr

namespace Command

def formatKind : ValueKind :=
  .oneOf [Format.json.word, Format.pretty.word]

def routeOptions : List (String × ValueKind) :=
  [("magic", .text), ("from", .text), ("to", .text)]

def lengthLimit : Nat := 0x100000000

/-- The bound of packet types, before their range is checked. -/
def typeLimit : Nat := 0x100

def countLimit : Nat := 0x10000000000000000

def routeTexts (arguments : Arguments) : Except Stop RouteTexts := do
  let magic ← arguments.require "magic"
  let sender ← arguments.require "from"
  let receiver ← arguments.require "to"
  return ⟨magic, sender, receiver⟩

/-- The texts of a route that is given whole or not at all. -/
def optionalRouteTexts (arguments : Arguments) :
    Except Stop (Option RouteTexts) :=
  if routeOptions.any fun option => (arguments.value? option.1).isSome then
    (routeTexts arguments).map some
  else
    .ok none

def formatOf (arguments : Arguments) : Format :=
  ((arguments.value? "format").bind Format.ofWord?).getD .pretty

def operandOf (arguments : Arguments) : Except Stop String :=
  match arguments.operands with
  | value :: _ => .ok value
  | [] => .error (.usage .missingOperand)

inductive Name where
  | tags
  | stamp
  | filter
  | address
  | magic
deriving DecidableEq, Repr

def Name.word : Name → String
  | tags => "tags"
  | stamp => "stamp"
  | filter => "filter"
  | address => "address"
  | magic => "magic"

def Name.ofWord? (word : String) : Option Name :=
  [tags, stamp, filter, address, magic].find? fun name => name.word == word

def Name.grammar : Name → Grammar
  | tags =>
      ⟨routeOptions ++ [("len", .signed lengthLimit), ("format", formatKind)],
        []⟩
  | stamp =>
      ⟨routeOptions ++
        [("packet-type", .signed typeLimit), ("payload", .text),
          ("out", .path)],
        []⟩
  | filter => ⟨routeOptions ++ [("format", formatKind)], [.path]⟩
  | address => ⟨[], [.text]⟩
  | magic => ⟨[("bytes", .unsigned countLimit)], []⟩

def ofArguments (name : Name) (arguments : Arguments) :
    Except Stop Command :=
  match name with
  | .tags => do
      let texts ← routeTexts arguments
      let length ← arguments.require "len"
      return .tags texts
        (UInt32.ofNat ((readSignedBelow? lengthLimit length).getD 0))
        (formatOf arguments)
  | .stamp => do
      let texts ← routeTexts arguments
      let packetType :=
        (arguments.value? "packet-type").bind (readSignedBelow? typeLimit)
      return .stamp texts
        (UInt8.ofNat (packetType.getD 1))
        ((arguments.value? "payload").getD "")
        (arguments.value? "out")
  | .filter => do
      let path ← operandOf arguments
      let texts ← optionalRouteTexts arguments
      return .filter path texts (formatOf arguments)
  | .address => do
      let text ← operandOf arguments
      return .address text
  | .magic =>
      let count :=
        (arguments.value? "bytes").bind (readUnsignedBelow? countLimit)
      return .magic (count.getD 8)

/-- Whether arguments after the word `help` name one command at most. -/
def isHelpTopic : List String → Bool
  | [] => true
  | [word] => word == "help" || (Name.ofWord? word).isSome
  | _ => false

/-- The command named by a word, from the arguments after it. -/
def parseNamed (word : String) (rest : List String) :
    Except Stop (Bool × Command) :=
  match Name.ofWord? word with
  | some name => do
      let arguments ←
        (Arguments.scan name.grammar Arguments.empty rest).mapError
          (Stop.within word)
      let command ← ofArguments name arguments
      return (arguments.debug, command)
  | none =>
      if word = "help" ∧ isHelpTopic rest then
        .error (.help rest)
      else
        .error (.usage (.unknownCommand word))

end Command

namespace Request

/-- Reads the arguments of the tool, with the debug flag seen or not. -/
def parseFrom (debug : Bool) : List String → Except Stop Request
  | [] => .error (.usage .missingCommand)
  | argument :: rest =>
      match Word.ofString argument with
      | .plain =>
          (Command.parseNamed argument rest).map fun (inner, command) =>
            ⟨debug || inner, command⟩
      | .long "debug" none =>
          if debug then
            .error (.usage (.repeatedOption "debug"))
          else
            parseFrom true rest
      | .long "help" none => .error (.help [])
      | .long "version" none => .error .version
      | .short 'h' => .error (.help [])
      | .short 'V' => .error .version
      | .separator => .error (.usage .missingCommand)
      | .long _ _ => .error (.usage (.unknownOption argument))
      | .short _ => .error (.usage (.unknownOption argument))

def parse (arguments : List String) : Except Stop Request :=
  parseFrom false arguments

end Request

end RelayFrame.Tool
