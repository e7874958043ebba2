import RelayFrame.Log.Verbosity
import RelayFrame.Packet.Admission

/-!
# Log events

What the library has to tell about its work, as data.  Which events happen
does not depend on the verbosity; that only chooses the lines that are shown.
-/

namespace RelayFrame.Log

/-- Something worth a line in the log. -/
inductive Event where
  | headerFault (fault : Packet.HeaderFault)
  | tagFault (fault : Packet.TagFault)
  | stamped (length : Nat) (type : UInt8)
  | inspected (length : Nat) (basic : Bool) (advanced : Option Bool)
  | wrote (path : String) (length : Nat)
deriving DecidableEq, Repr

structure Line where
  level : Verbosity
  target : String
  message : String
  fields : List (String × String)
deriving DecidableEq, Repr

def Line.text (line : Line) : String :=
  line.level.heading ++ " " ++ line.target ++ ": " ++ line.message ++
    String.join (line.fields.map fun field =>
      " " ++ field.1 ++ "=" ++ field.2)

def truthText (value : Bool) : String :=
  if value then "true" else "false"

def optionalTruthText : Option Bool → String
  | none => "None"
  | some value => "Some(" ++ truthText value ++ ")"

namespace Event

def admissionTarget : String := "wire::filter"

def toolTarget : String := "udpx_tools"

def line : Event → Line
  | headerFault (.tooSmall length) =>
      ⟨.trace, admissionTarget, "basic filter: packet too small",
        [("len", length.repr)]⟩
  | headerFault (.outOfBand index byte) =>
      ⟨.trace, admissionTarget, "basic filter: header byte out of range",
        [("index", index.repr), ("value", byte.toNat.repr)]⟩
  | tagFault (.tooSmall length) =>
      ⟨.trace, admissionTarget, "advanced filter: packet too small",
        [("len", length.repr)]⟩
  | tagFault (.tooLarge length) =>
      ⟨.trace, admissionTarget, "advanced filter: packet too large",
        [("len", length.repr)]⟩
  | tagFault .chonkle =>
      ⟨.trace, admissionTarget, "advanced filter: chonkle mismatch", []⟩
  | tagFault .pittle =>
      ⟨.trace, admissionTarget, "advanced filter: pittle mismatch", []⟩
  | stamped length type =>
      ⟨.debug, toolTarget, "stamped packet",
        [("len", length.repr), ("packet_type", type.toNat.repr)]⟩
  | inspected length basic advanced =>
      ⟨.debug, toolTarget, "inspected packet",
        [("len", length.repr), ("basic", truthText basic),
          ("advanced", optionalTruthText advanced)]⟩
  | wrote path length =>
      ⟨.info, toolTarget, "wrote packet",
        [("path", path), ("len", length.repr)]⟩

def level (event : Event) : Verbosity :=
  event.line.level

def text (event : Event) : String :=
  event.line.text

end Event

/-- The events that show at the given verbosity, in their order. -/
def shown (verbosity : Verbosity) (events : List Event) : List Event :=
  events.filter fun event => verbosity.shows event.level

end RelayFrame.Log
