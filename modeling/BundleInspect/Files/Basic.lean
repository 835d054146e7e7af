import BundleInspect.Text.Bytes

/-!
# Files

Directories, regular files, sockets and symbolic links, each at the names that lead to it from the
root. Nothing here changes while a command runs; the edits build a state to run it in.
-/

namespace BundleInspect

/-- A socket is there and cannot be opened. -/
inductive Item where
  | directory
  /-- It can be passed through, but its entries cannot be listed. -/
  | closedDirectory
  | file (contents : Bytes)
  | socket
  deriving DecidableEq

def Item.isDirectory : Item → Bool
  | directory | closedDirectory => true
  | file _ | socket => false

abbrev View := Path → Option Item

namespace Files

abbrev Name := Bytes

/-- The names from the root. -/
abbrev Location := List Name

inductive Entry where
  | item (item : Item)
  | link (target : Path)
  deriving DecidableEq

end Files

open Files in
structure Files where
  entries : List (Location × Entry) := []
  workingDirectory : Location := []

namespace Files

def entry? (files : Files) (here : Location) : Option Entry :=
  if here = [] then some (.item .directory) else files.entries.lookup here

def isDirectory (files : Files) (here : Location) : Bool :=
  match files.entry? here with
  | some (.item item) => item.isDirectory
  | _ => false

def put (files : Files) (here : Location) (entry : Entry) : Files :=
  { files with entries := (here, entry) :: files.entries.filter (·.1 != here) }

def prune (files : Files) (here : Location) : Files :=
  { files with entries := files.entries.filter fun e => !here.isPrefixOf e.1 }

end Files
end BundleInspect
