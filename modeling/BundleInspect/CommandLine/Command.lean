import BundleInspect.Text.Bytes

/-!
# Commands

What a command line asks for.
-/

namespace BundleInspect

structure DumpArgs where
  target : Option String := none
  bundle : Path
  xpath : Option String := none
  resource : Option String := none
  values : Option Bool := none
  deriving DecidableEq

structure ExtractArgs where
  apks : Path
  deviceSpec : Path
  outputDir : Path
  deriving DecidableEq

inductive Command where
  | dump (args : DumpArgs)
  | extract (args : ExtractArgs)
  | version
  | completions (shell : String)
  deriving DecidableEq

structure Invocation where
  verbose : Bool
  log : Option String
  command : Command
  deriving DecidableEq

/-- A given filter counts more than `verbose`. -/
def Invocation.logFilter (i : Invocation) : String :=
  match i.log with
  | some filter => filter
  | none => if i.verbose then "bundlekit=debug" else "bundlekit=warn"

end BundleInspect
