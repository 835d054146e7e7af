import BundleInspect.DeviceSpec.Basic
import BundleInspect.Log.Event

/-!
# Backends

Reading bundles and picking APKs is the work of a backend. A dump backend answers a request with a
script of writes, flushes and log events, which is played against the sink that the dump goes to; an
extractor answers with the paths it wrote. Both may fail with a reason.
-/

namespace BundleInspect

/-! ## Sinks -/

inductive Exchange where
  | wrote (bytes : Bytes) (count : Nat)
  | refused (bytes : Bytes) (message : String)
  | flushed (refusal : Option String)
  deriving DecidableEq

/-- All that happened to it, the latest first, and what it will do. -/
structure Sink where
  history : List Exchange := []
  refusal : List Exchange → Bytes → Option String := fun _ _ => none
  accepted : List Exchange → Bytes → Nat := fun _ bytes => bytes.length
  flushRefusal : List Exchange → Option String := fun _ => none

def Exchange.written : Exchange → Bytes
  | .wrote bytes count => bytes.take count
  | .refused .. | .flushed _ => []

namespace Sink

def write (sink : Sink) (bytes : Bytes) : Sink × Except String Nat :=
  match sink.refusal sink.history bytes with
  | some message =>
    ({ sink with history := .refused bytes message :: sink.history }, .error message)
  | none =>
    let count := min (sink.accepted sink.history bytes) bytes.length
    ({ sink with history := .wrote bytes count :: sink.history }, .ok count)

def flush (sink : Sink) : Sink × Except String Unit :=
  let refusal := sink.flushRefusal sink.history
  ({ sink with history := .flushed refusal :: sink.history },
    match refusal with
    | some message => .error message
    | none => .ok ())

def bytes (sink : Sink) : Bytes :=
  sink.history.reverse.flatMap Exchange.written

def written (sink : Sink) : String :=
  sink.bytes.display

def refused (sink : Sink) : Nat :=
  sink.history.countP fun
    | .refused .. => true
    | _ => false

end Sink

/-! ## Dump backends -/

inductive DumpRequest where
  | config (bundle : Path)
  | manifest (bundle : Path) (xpath : Option String)
  | resources (bundle : Path) (predicate : Resource.Predicate) (printValues : Bool)
  deriving DecidableEq

/-- After asking the sink for something, a backend goes on according to the answer. -/
inductive Script where
  | finish (result : Except Reason Unit)
  | emit (event : Log.Event) (next : Script)
  | write (bytes : Bytes) (next : Except String Nat → Script)
  | flush (next : Except String Unit → Script)

structure Played where
  sink : Sink
  events : List Log.Event
  result : Except Reason Unit

def Script.play : Script → Sink → Played
  | .finish result, sink => ⟨sink, [], result⟩
  | .emit event next, sink =>
    let rest := next.play sink
    { rest with events := event :: rest.events }
  | .write bytes next, sink =>
    let (sink, outcome) := sink.write bytes
    (next outcome).play sink
  | .flush next, sink =>
    let (sink, outcome) := sink.flush
    (next outcome).play sink

abbrev DumpBackend := DumpRequest → Script

/-! ## Extractors -/

structure ExtractRequest where
  archive : Path
  spec : DeviceSpec
  outputDirectory : Path
  deriving DecidableEq

structure Extraction where
  events : List Log.Event := []
  result : Except Reason (List Path)

abbrev Extractor := ExtractRequest → Extraction

structure Backends where
  dump : DumpBackend
  extract : Extractor

/-! ## No backend -/

def Backends.unlinked : Backends where
  dump := fun _ => .emit (.noBackend .dump) (.finish (.error (.unavailable .dump)))
  extract := fun _ => ⟨[.noBackend .extraction], .error (.unavailable .extraction)⟩

end BundleInspect
