import BundleInspect.Dump.Target
import BundleInspect.Files.Check

/-!
# Dump commands

A request to print part of a bundle, and the rules its optional parts obey.
-/

namespace BundleInspect.Dump

open Log Files

structure Command where
  bundle : Path
  target : Target
  xpath : Option String := none
  resourceId : Option Int32 := none
  resourceName : Option String := none
  printValues : Option Bool := none
  deriving DecidableEq

namespace Command

/-- The first rule that a command breaks, whatever its bundle is. -/
def complaint? (c : Command) : Option Complaint :=
  if c.resourceId.isSome && c.resourceName.isSome then some .idAndName
  else if c.xpath.isSome && c.target == .resources then some .xpathOnResources
  else if c.xpath.isSome && c.target == .config then some .xpathOffManifest
  else if (c.resourceId.isSome || c.resourceName.isSome) && c.target != .resources then
    some .resourceOffResources
  else if c.printValues.isSome && c.target != .resources then some .valuesOffResources
  else none

def validate (view : View) (c : Command) : Stage Unit := do
  checkReadable view c.bundle
  match c.complaint? with
  | some complaint => .fail (.invalidCommand complaint)
  | none => pure ()

/-! ## The fields of a command, shown -/

def showOption {α : Type} (f : α → String) : Option α → String
  | none => "None"
  | some a => s!"Some({f a})"

def showTarget : Target → String
  | .manifest => "Manifest"
  | .resources => "Resources"
  | .config => "Config"

def describe (c : Command) : String :=
  "DumpCommand \x7b bundle_path: " ++ c.bundle.quote ++
    ", dump_target: " ++ showTarget c.target ++
    ", xpath_expression: " ++ showOption Text.quote c.xpath ++
    ", resource_id: " ++ showOption (fun i : Int32 => toString i.toInt) c.resourceId ++
    ", resource_name: " ++ showOption Text.quote c.resourceName ++
    ", print_values: " ++ showOption (fun b : Bool => toString b) c.printValues ++ ", .. \x7d"

end Command
end BundleInspect.Dump
