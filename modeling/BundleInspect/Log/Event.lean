import BundleInspect.Dump.Target
import BundleInspect.Resource.Predicate

/-!
# Log events

What a run reports on the way, and the text each event becomes: its level, what happened, and the
values that belong to it.
-/

namespace BundleInspect.Log

inductive Level where
  | error
  | warn
  | info
  | debug
  | trace
  deriving DecidableEq, Repr

def Level.rank : Level → Nat
  | .error => 1
  | .warn => 2
  | .info => 3
  | .debug => 4
  | .trace => 5

def Level.label : Level → String
  | .error => "ERROR"
  | .warn => " WARN"
  | .info => " INFO"
  | .debug => "DEBUG"
  | .trace => "TRACE"

inductive Event where
  | resolvedTarget (target : Dump.Target) (bundle : Path)
  | inputReadable (path : Path)
  | dumping (target : Dump.Target) (bundle : Path)
  | compiledPredicate (predicate : Resource.Predicate)
  | decodedSpec (abis : List String) (sdkVersion : Int32)
  | extracted (count : Nat) (outputDirectory : Path)
  | noBackend (operation : Operation)
  deriving DecidableEq

namespace Event

def level : Event → Level
  | dumping .. | extracted .. => .info
  | noBackend _ => .warn
  | _ => .debug

/-- Log filters go by these names. -/
def origin : Event → String
  | inputReadable _ => "bundlekit::common::fs"
  | resolvedTarget .. | dumping .. | compiledPredicate _ => "bundlekit::commands::dump_sdk_bundle"
  | decodedSpec .. | extracted .. => "bundlekit::commands::extract_apk"
  | noBackend _ => "bundlekit::backend::unlinked"

def message : Event → String
  | resolvedTarget .. => "resolved dump target"
  | inputReadable _ => "input file is readable"
  | dumping .. => "dumping SDK bundle"
  | compiledPredicate _ => "compiled resource predicate"
  | decodedSpec .. => "decoded device spec"
  | extracted .. => "extracted APKs"
  | noBackend _ => "no backend linked"

def fields : Event → List (String × String)
  | resolvedTarget target bundle | dumping target bundle =>
    [("dump_target", target.name), ("bundle", bundle.display)]
  | inputReadable path => [("path", path.display)]
  | compiledPredicate predicate => [("predicate", predicate.display)]
  | decodedSpec abis sdkVersion =>
    [("abis", Text.quoteList abis), ("sdk_version", toString sdkVersion.toInt)]
  | extracted count outputDirectory =>
    [("count", toString count), ("output_dir", outputDirectory.display)]
  | noBackend operation => [("operation", Text.quote operation.name)]

def fieldNames (e : Event) : List String :=
  "message" :: e.fields.map (·.1)

def line (e : Event) : String :=
  e.level.label ++ " " ++ e.message ++
    String.join (e.fields.map fun (name, value) => s!" {name}={value}")

end Event
end BundleInspect.Log
