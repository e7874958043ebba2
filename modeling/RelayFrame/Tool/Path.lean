/-!
# Paths

A path is a text of steps with slashes between them.  It leads through folders,
from the root or from the working folder, and ends at a folder or at a name in
the last of them.  Doubled slashes and steps to where one stands already count
for nothing, except at the end: there they tell that a folder is meant.
-/

namespace RelayFrame.Tool

/-- What a path ends at: the folder that its steps lead to or a name in it,
which has to be that of a folder when a slash follows. -/
inductive PathEnd where
  | folder
  | named (name : String) (slashed : Bool)
deriving DecidableEq, Repr

/-- A path with its steps told apart. -/
structure Path where
  rooted : Bool
  steps : List String
  ending : PathEnd
deriving DecidableEq, Repr

namespace Path

def hereStep : String := "."

def upStep : String := ".."

def longestName : Nat := 255

def longestText : Nat := 4095

/-- The parts of a text between its slashes. -/
def parts (text : String) : List String :=
  (text.toList.splitOn '/').map String.ofList

/-- The steps among some parts that lead anywhere. -/
def stepsOf (parts : List String) : List String :=
  parts.filter fun part => part != "" && part != hereStep

def ofString (text : String) : Path :=
  let parts := parts text
  let rooted := text.toList.head? == some '/'
  let slashed := parts.getLast? == some ""
  let present := parts.filter (· != "")
  match present.getLast? with
  | none => ⟨rooted, [], .folder⟩
  | some last =>
      if last = hereStep ∨ last = upStep then
        ⟨rooted, stepsOf present, .folder⟩
      else
        ⟨rooted, stepsOf present.dropLast, .named last slashed⟩

end Path

end RelayFrame.Tool
