import BundleInspect.Files.Basic
import BundleInspect.Log.Stage

/-!
# Checking paths

Two conditions on paths before the work starts: an input is there and can be opened, an output
directory is a directory or not there at all.
-/

namespace BundleInspect.Files

open Log

/-- A directory is readable if its entries can be listed. -/
def Item.isReadable : Item → Bool
  | .directory | .file _ => true
  | .closedDirectory | .socket => false

def checkReadable (view : View) (path : Path) : Stage Unit :=
  match view path with
  | none => .fail (.fileNotFound path)
  | some item =>
    if Item.isReadable item then .log (.inputReadable path) else .fail (.fileNotReadable path)

def checkOutput (view : View) (path : Path) : Stage Unit :=
  match view path with
  | none => pure ()
  | some item => if item.isDirectory then pure () else .fail (.invalidOutputDirectory path)

end BundleInspect.Files
