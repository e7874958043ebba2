import RelayFrame.Net.Ipv6
import RelayFrame.Text.CharClass
import RelayFrame.Text.Quoted

/-!
# Addresses

One end of a relay's path: a host with a port, or nothing at all.  An IPv6
address also carries a flow label and a scope; the scope shows in its text and
the flow label does not.  Reading accepts a socket address or a bare host,
which gets port zero, with white space around it.
-/

namespace RelayFrame

/-- An optional UDP endpoint. -/
inductive Address where
  | absent
  | ipv4 (host : Ipv4) (port : UInt16)
  | ipv6 (host : Ipv6) (port : UInt16) (flow scope : UInt32)
deriving DecidableEq, Repr

/-- A text that is no address, without the white space around it. -/
structure AddressError where
  input : String
deriving DecidableEq, Repr

def AddressError.message (error : AddressError) : String :=
  "invalid address: " ++ Text.quote error.input

namespace Address

open Text

def isAbsent : Address → Bool
  | absent => true
  | _ => false

/-- The port, zero when there is no address. -/
def port : Address → UInt16
  | absent => 0
  | ipv4 _ port => port
  | ipv6 _ port _ _ => port

/-- The same endpoint, as an IPv4 address if its host stands for an IPv4
host. -/
def canonical : Address → Address
  | ipv6 host port flow scope =>
      match host.mapped? with
      | some inner => ipv4 inner port
      | none => ipv6 host port flow scope
  | address => address

/-- The octets of the host in network order, none when there is no
address. -/
def hostOctets : Address → List UInt8
  | absent => []
  | ipv4 host _ => host.octets
  | ipv6 host _ _ _ => host.octets

/-! ## Writing -/

def characters : Address → List Char
  | absent => "none".toList
  | ipv4 host port => host.text ++ ':' :: Numeral.decimal port.toNat
  | ipv6 host port _ scope =>
      let scopeText :=
        if scope = 0 then [] else '%' :: Numeral.decimal scope.toNat
      '[' :: (host.text ++ scopeText ++ ']' :: ':' ::
        Numeral.decimal port.toNat)

def text (address : Address) : String :=
  String.ofList address.characters

/-! ## Reading -/

def scanPort : Scanner UInt16 := fun text => do
  let (value, rest) ← numeral 10 0x10000 (fun _ => true) (← after? ':' text)
  return (UInt16.ofNat value, rest)

def scanScope : Scanner UInt32 := fun text => do
  let (value, rest) ←
    numeral 10 0x100000000 (fun _ => true) (← after? '%' text)
  return (UInt32.ofNat value, rest)

def scanIpv4 : Scanner Address := fun text => do
  let (host, rest) ← Ipv4.scan text
  let (port, rest) ← scanPort rest
  return (ipv4 host port, rest)

/-- Takes an IPv6 socket address, whose host and scope stand in brackets.
Without a scope the scope is zero. -/
def scanIpv6 : Scanner Address := fun text => do
  let (host, rest) ← Ipv6.scan (← after? '[' text)
  let (scope, rest) := (scanScope rest).getD (0, rest)
  let (port, rest) ← scanPort (← after? ']' rest)
  return (ipv6 host port 0 scope, rest)

def scanBareIpv4 : Scanner Address := fun text => do
  let (host, rest) ← Ipv4.scan text
  return (ipv4 host 0, rest)

def scanBareIpv6 : Scanner Address := fun text => do
  let (host, rest) ← Ipv6.scan text
  return (ipv6 host 0 0 0, rest)

/-- The socket address that a text spells. -/
def ofSocketText? (text : List Char) : Option Address :=
  Scanner.whole? (fun text => scanIpv4 text <|> scanIpv6 text) text

def ofHostText? (text : List Char) : Option Address :=
  Scanner.whole? (fun text => scanBareIpv4 text <|> scanBareIpv6 text) text

/-- Reads an address: a socket address, else a bare host, with any white space
around it. -/
def parse (input : String) : Except AddressError Address :=
  let inner := trimmed input.toList
  match ofSocketText? inner <|> ofHostText? inner with
  | some address => .ok address
  | none => .error ⟨String.ofList inner⟩

end Address

end RelayFrame
