import BundleInspect.Dump.Run
import BundleInspect.Extract.Run
import BundleInspect.Program.Shell

/-!
# Running commands

A command is carried out over a view of the files and a pair of backends. The completions of a shell
are a script that is made elsewhere.
-/

namespace BundleInspect

inductive Request where
  | dump (request : DumpRequest)
  | extract (request : ExtractRequest)
  deriving DecidableEq

structure RunReport where
  result : Except Error Unit
  output : String
  events : List Log.Event
  requests : List Request

def RunReport.quiet (result : Except Error Unit) (output : String) : RunReport :=
  ⟨result, output, [], []⟩

def Dump.Report.toRun (r : Dump.Report Unit) : RunReport :=
  ⟨r.result, r.sink.written, r.events, r.requests.map .dump⟩

/-- Paths are listed only after all went well. -/
def Extract.Report.toRun (r : Extract.Report) : RunReport :=
  match r.result with
  | .ok paths => ⟨.ok (), Extract.listing paths, r.events, r.requests.map .extract⟩
  | .error e => ⟨.error e, "", r.events, r.requests.map .extract⟩

def versionText : String :=
  "bundlekit 0.3.1\n\nBuild info:\n  Rust version: 1.85\n  Profile: debug\n"

/-- A dump goes to the output itself, which refuses nothing. -/
def Command.run (view : View) (backends : Backends) (script : Shell → String) :
    Command → RunReport
  | .dump args => (Dump.run view backends.dump args {}).toRun
  | .extract args => ((Extract.Command.ofArgs args).execute view backends.extract).toRun
  | .version => .quiet (.ok ()) versionText
  | .completions name =>
    match Shell.ofName name with
    | .ok shell => .quiet (.ok ()) (script shell)
    | .error e => .quiet (.error e) ""

end BundleInspect
