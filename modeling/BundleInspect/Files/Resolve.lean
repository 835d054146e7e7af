import BundleInspect.Files.Basic

/-!
# Where paths lead

A path is followed name by name from the root or the working directory. Symbolic links are followed
wherever they stand, at most forty of them on the way.
-/

namespace BundleInspect.Files

def slash : UInt8 :=
  47

/-- A slash at either end has an empty name beyond it. -/
def names (path : Path) : List Name :=
  path.splitOn slash

def isHere (name : Name) : Bool :=
  name == [] || name == [46]

def isAbove (name : Name) : Bool :=
  name == [46, 46]

def longestName : Nat :=
  255

def longestPath : Nat :=
  4095

def mostLinks : Nat :=
  40

def origin (here : Location) (path : Path) : Location :=
  if path.head? = some slash then [] else here

/-- Only the last name may lead to where nothing is. -/
def steps (files : Files) (follow : Location → List Name → Option Location) :
    Location → List Name → Option Location
  | here, [] => some here
  | here, name :: more =>
    if files.isDirectory here then
      if isHere name then steps files follow here more
      else if isAbove name then steps files follow here.dropLast more
      else if longestName < name.length then none
      else
        match files.entry? (here ++ [name]) with
        | some (.link target) => follow (origin here target) (names target ++ more)
        | _ => steps files follow (here ++ [name]) more
    else none

def walk (files : Files) : Nat → Location → List Name → Option Location
  | 0 => steps files fun _ _ => none
  | links + 1 => steps files (walk files links)

/-- Paths that no system call takes. -/
def isHopeless (path : Path) : Bool :=
  path == [] || longestPath < path.length || path.contains 0

def locate (files : Files) (path : Path) : Option Location :=
  if isHopeless path then none
  else files.walk mostLinks (origin files.workingDirectory path) (names path)

def view (files : Files) : View := fun path =>
  match (files.locate path).bind files.entry? with
  | some (.item item) => some item
  | _ => none

/-! ## Edits -/

/-- A link at the end is followed if there is a slash after it. -/
def place (files : Files) (path : Path) : Option Location :=
  let all := names path
  match all.getLast? with
  | none => none
  | some [] => files.locate path
  | some last =>
    (files.walk mostLinks (origin files.workingDirectory path) all.dropLast).map (· ++ [last])

def write (files : Files) (path : Path) (contents : Bytes) : Files :=
  match files.locate path with
  | some here => files.put here (.item (.file contents))
  | none => files

def makeDirectories (files : Files) (path : Path) : Files :=
  let all := names path
  (List.range all.length).foldl (fun files n =>
    match files.walk mostLinks (origin files.workingDirectory path) (all.take (n + 1)) with
    | some here => if (files.entry? here).isNone then files.put here (.item .directory) else files
    | none => files) files

def create (files : Files) (path : Path) (entry : Entry) : Files :=
  match files.place path with
  | some here => files.put here entry
  | none => files

def remove (files : Files) (path : Path) : Files :=
  match files.place path with
  | some here => files.prune here
  | none => files

end BundleInspect.Files
