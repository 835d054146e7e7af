import BundleInspect.CommandLine.Help
import BundleInspect.Log.Filter
import BundleInspect.Program.Run

/-!
# The program

What the program answers to a command line: an exit code, a text on the standard output, and one on
the standard error, the log first. It is built without backends.
-/

namespace BundleInspect

structure Outcome where
  exitCode : Nat
  output : String
  errors : String
  deriving DecidableEq

def printed (texts : List String) : String :=
  String.join (texts.map (· ++ "\n"))

/-! ## What is left to others -/

/-- What the program is built on. -/
structure Support where
  filters : Log.FilterReader
  /-- In red and bold, or the text itself where nothing is shown in colour. -/
  alarm : String → String
  script : Shell → String

/-! ## Answers -/

def Error.report (alarm : String → String) (e : Error) : List String :=
  (alarm "Error:" ++ " " ++ e.message) :: e.causes.map fun cause => "  caused by: " ++ cause

def CommandLine.Stop.outcome (env : Option Bytes) (stop : CommandLine.Stop) : Outcome :=
  match stop with
  | .misuse m => ⟨stop.exitCode, "", m.message ++ "\n"⟩
  | .overview => ⟨stop.exitCode, "", stop.message env⟩
  | .help _ | .version => ⟨stop.exitCode, stop.message env, ""⟩

def RunReport.outcome (alarm : String → String) (filter : Log.Filter) (r : RunReport) : Outcome :=
  let log := filter.lines r.events
  match r.result with
  | .ok () => ⟨0, r.output, printed log⟩
  | .error e => ⟨1, r.output, printed (log ++ e.report alarm)⟩

/-- Nothing is carried out if the reader of filters gives up. -/
def answer (support : Support) (view : View) (env : Option Bytes) (words : List Word) : Outcome :=
  match CommandLine.parse env words with
  | .error stop => stop.outcome env
  | .ok i =>
    match support.filters.read i.logFilter with
    | .error said => ⟨101, "", said⟩
    | .ok filter => (i.command.run view .unlinked support.script).outcome support.alarm filter

def Command.paths : Command → List Path
  | .dump args => [args.bundle]
  | .extract args => [args.apks, args.deviceSpec, args.outputDir]
  | .version | .completions _ => []

def pathsOf (env : Option Bytes) (words : List Word) : List Path :=
  match CommandLine.parse env words with
  | .error _ => []
  | .ok invocation => invocation.command.paths

end BundleInspect
