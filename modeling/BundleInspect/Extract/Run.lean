import BundleInspect.Backend.Basic
import BundleInspect.CommandLine.Command
import BundleInspect.Files.Check

/-!
# Running extractions

The three paths are checked and the device spec is read before the extractor is asked; the paths it
wrote are listed.
-/

namespace BundleInspect.Extract

open Log Files

structure Command where
  archive : Path
  deviceSpec : Path
  outputDirectory : Path
  deriving DecidableEq

structure Report where
  result : Except Error (List Path)
  events : List Event
  requests : List ExtractRequest

namespace Command

def ofArgs (args : ExtractArgs) : Command :=
  ⟨args.apks, args.deviceSpec, args.outputDir⟩

def validate (view : View) (c : Command) : Stage Unit := do
  checkReadable view c.archive
  checkReadable view c.deviceSpec
  checkOutput view c.outputDirectory

def readText (view : View) (path : Path) : Except Reason String :=
  match view path with
  | some (.file contents) =>
    match contents.text? with
    | some text => .ok text
    | none => .error .notText
  | some .directory => .error .isDirectory
  | some .closedDirectory => .error (.stated "Permission denied (os error 13)" [])
  | some .socket => .error (.stated "No such device or address (os error 6)" [])
  | none => .error (.stated "No such file or directory (os error 2)" [])

def readSpec (view : View) (path : Path) : Except Reason DeviceSpec :=
  match readText view path with
  | .error reason => .error reason
  | .ok text => (DeviceSpec.decode text).mapError .badSpec

def prepare (view : View) (c : Command) : Stage ExtractRequest := do
  c.validate view
  let spec ← .ofExcept ((readSpec view c.deviceSpec).mapError (.deviceSpecReadFailed c.deviceSpec))
  .log (.decodedSpec spec.supportedAbis spec.sdkVersion)
  return ⟨c.archive, spec, c.outputDirectory⟩

def conclude (c : Command) (answer : Extraction) : Stage (List Path) := do
  let paths ← .ofExcept (answer.result.mapError .extractionFailed)
  .log (.extracted paths.length c.outputDirectory)
  return paths

def execute (view : View) (extractor : Extractor) (c : Command) : Report :=
  let prepared := c.prepare view
  match prepared.result with
  | .error e => ⟨.error e, prepared.events, []⟩
  | .ok request =>
    let answer := extractor request
    let concluded := c.conclude answer
    ⟨concluded.result, prepared.events ++ answer.events ++ concluded.events, [request]⟩

end Command

def listing (paths : List Path) : String :=
  String.join (paths.map fun p => p.display ++ "\n")

end BundleInspect.Extract
