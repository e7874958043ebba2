import RelayFrame.Bytes
import RelayFrame.Tool.Path

/-!
# File trees

The folders and files that a run can reach, as a value.  A path is followed
step by step, and the first step that cannot be taken decides the error.  Only
what a path ends at differs between reading and writing: a file is read if it
is there, and is written whether or not it is, but never as a folder.
-/

namespace RelayFrame.Tool

inductive FileError where
  | notFound
  | notDirectory
  | isDirectory
  | nameTooLong
  | permissionDenied
  | noSpace
  | outOfMemory
  | other (text : String)
deriving DecidableEq, Repr

def FileError.message : FileError → String
  | notFound => "No such file or directory (os error 2)"
  | notDirectory => "Not a directory (os error 20)"
  | isDirectory => "Is a directory (os error 21)"
  | nameTooLong => "File name too long (os error 36)"
  | permissionDenied => "Permission denied (os error 13)"
  | noSpace => "No space left on device (os error 28)"
  | outOfMemory => "Cannot allocate memory (os error 12)"
  | other text => text

/-! ## Devices -/

/-- A file that keeps nothing.  The first is empty, the other two never end,
and the last of them refuses all that is written to it. -/
inductive Device where
  | null
  | endless
  | full
deriving DecidableEq, Repr

namespace Device

def read : Device → Except FileError Bytes
  | null => .ok []
  | endless => .error .outOfMemory
  | full => .error .outOfMemory

/-- Offers a device what it will not keep. -/
def write : Device → Bytes → Except FileError Unit
  | full, _ :: _ => .error .noSpace
  | _, _ => .ok ()

end Device

/-! ## Trees -/

abbrev Location := List String

inductive Node where
  | folder
  | file (content : Bytes)
  | device (device : Device)
deriving DecidableEq, Repr

/-- Everything a run can reach, and the folder that it starts from.  A sealed
folder takes no new file. -/
structure FileTree where
  node? : Location → Option Node
  isSealed : Location → Bool
  working : Location

namespace FileTree

def insert (tree : FileTree) (location : Location) (content : Bytes) :
    FileTree :=
  { tree with
    node? := fun other =>
      if other = location then some (.file content) else tree.node? other }

/-- Where a name in a folder lies. -/
def find (folder : Location) (name : String) : Except FileError Location :=
  if Path.longestName < name.utf8ByteSize then
    .error .nameTooLong
  else
    .ok (folder ++ [name])

/-- The folder that one step leads to.  No step leads above the root. -/
def enter (tree : FileTree) (folder : Location) (step : String) :
    Except FileError Location :=
  if step = Path.upStep then
    .ok folder.dropLast
  else do
    let location ← find folder step
    match tree.node? location with
    | some .folder => .ok location
    | some _ => .error .notDirectory
    | none => .error .notFound

/-- The folder that the steps of a path lead to, and what it ends at there. -/
def follow (tree : FileTree) (text : String) :
    Except FileError (Location × PathEnd) :=
  if text = "" then
    .error .notFound
  else if Path.longestText < text.utf8ByteSize then
    .error .nameTooLong
  else do
    let path := Path.ofString text
    let start := if path.rooted then [] else tree.working
    let folder ← path.steps.foldlM tree.enter start
    return (folder, path.ending)

/-- Reads the file of that name in a folder.  Nothing but a folder may have a
slash behind its name. -/
def readIn (tree : FileTree) (folder : Location) (name : String)
    (slashed : Bool) : Except FileError Bytes := do
  let location ← find folder name
  match tree.node? location with
  | none => .error .notFound
  | some .folder => .error .isDirectory
  | some (.file content) =>
      if slashed then .error .notDirectory else .ok content
  | some (.device device) =>
      if slashed then .error .notDirectory else device.read

def read (tree : FileTree) (text : String) : Except FileError Bytes := do
  match ← tree.follow text with
  | (_, .folder) => .error .isDirectory
  | (folder, .named name slashed) => tree.readIn folder name slashed

def writeIn (tree : FileTree) (folder : Location) (name : String)
    (content : Bytes) : Except FileError FileTree := do
  let location ← find folder name
  match tree.node? location with
  | some .folder => .error .isDirectory
  | some (.device device) =>
      device.write content
      return tree
  | some (.file _) => .ok (tree.insert location content)
  | none =>
      if tree.isSealed folder then .error .permissionDenied
      else .ok (tree.insert location content)

/-- Writes a whole file, which need not be there before.  A slash behind its
name asks for a folder, whatever the name. -/
def write (tree : FileTree) (text : String) (content : Bytes) :
    Except FileError FileTree := do
  match ← tree.follow text with
  | (_, .folder) => .error .isDirectory
  | (folder, .named name slashed) =>
      if slashed then .error .isDirectory
      else tree.writeIn folder name content

end FileTree

end RelayFrame.Tool
