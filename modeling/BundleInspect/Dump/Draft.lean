import BundleInspect.Dump.Command

/-!
# Drafts of dump commands

A command is put together from settings in any order; a later one of a kind replaces an earlier one.
-/

namespace BundleInspect.Dump

inductive Setting where
  | bundle (path : Path)
  | target (target : Target)
  | xpath (expression : String)
  | resourceId (value : Int32)
  | resourceName (name : String)
  /-- An ID or a name, as the command line gives it. -/
  | resource (raw : String)
  | printValues (value : Bool)

structure Draft where
  bundle : Option Path := none
  target : Option Target := none
  xpath : Option String := none
  resourceId : Option Int32 := none
  resourceName : Option String := none
  printValues : Option Bool := none
  deriving DecidableEq

namespace Draft

def set (d : Draft) : Setting → Draft
  | .bundle path => { d with bundle := some path }
  | .target target => { d with target := some target }
  | .xpath expression => { d with xpath := some expression }
  | .resourceId value => { d with resourceId := some value }
  | .resourceName name => { d with resourceName := some name }
  | .resource raw =>
    match Resource.Selector.parse raw with
    | .id value => { d with resourceId := some value }
    | .name name => { d with resourceName := some name }
  | .printValues value => { d with printValues := some value }

def ofSettings (settings : List Setting) : Draft :=
  settings.foldl set {}

def build (d : Draft) : Except Error Command :=
  match d.bundle, d.target with
  | none, _ => .error (.invalidCommand .noBundle)
  | some _, none => .error .missingDumpTarget
  | some bundle, some target =>
    .ok ⟨bundle, target, d.xpath, d.resourceId, d.resourceName, d.printValues⟩

end Draft
end BundleInspect.Dump
