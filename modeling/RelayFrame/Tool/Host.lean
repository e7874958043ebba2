import RelayFrame.Tool.FileTree

/-!
# Hosts

The tree of an ordinary host: the usual folders, the usual devices, and a
working folder that holds the files of a run and nothing else.  The folders
that show the state of the system itself take no files.
-/

namespace RelayFrame.Tool.Host

def workingFolder : Location := ["tmp", "relay"]

def rootFolders : List String :=
  ["bin", "boot", "dev", "etc", "home", "lib", "lib64", "media", "mnt", "opt",
    "proc", "root", "run", "sbin", "srv", "sys", "tmp", "usr", "var"]

def innerFolders : List Location :=
  [workingFolder, ["dev", "fd"], ["dev", "mqueue"], ["dev", "pts"],
    ["dev", "shm"], ["proc", "self"], ["proc", "sys"], ["sys", "class"],
    ["sys", "kernel"], ["usr", "bin"], ["usr", "include"], ["usr", "lib"],
    ["usr", "local"], ["usr", "sbin"], ["usr", "share"], ["var", "cache"],
    ["var", "lib"], ["var", "log"], ["var", "spool"], ["var", "tmp"]]

/-- The folders that show the state of the system. -/
def systemFolders : List String := ["proc", "sys"]

/-- The devices, by place. -/
def devices : List (Location × Device) :=
  [(["dev", "null"], .null), (["dev", "stdin"], .null),
    (["dev", "zero"], .endless), (["dev", "random"], .endless),
    (["dev", "urandom"], .endless), (["dev", "full"], .full)]

def outside? (location : Location) : Option Node :=
  if location = [] ∨ innerFolders.contains location ∨
      (rootFolders.map fun name => [name]).contains location then
    some .folder
  else
    (devices.lookup location).map .device

/-- What stands at a place when the working folder holds some files. -/
def node? (files : String → Option Bytes) (location : Location) :
    Option Node :=
  if location.dropLast = workingFolder then
    (location.getLast?.bind files).map .file
  else
    outside? location

/-- Whether a folder belongs to the state of the system. -/
def isSystemFolder (location : Location) : Bool :=
  location.head?.any systemFolders.contains

/-- The tree whose working folder holds some files, by name. -/
def tree (files : String → Option Bytes) : FileTree :=
  ⟨node? files, isSystemFolder, workingFolder⟩

end RelayFrame.Tool.Host
