import BundleInspect.Backend.Basic
import BundleInspect.CommandLine.Command
import BundleInspect.Dump.Draft

/-!
# Running dumps

A dump is prepared, which may fail and asks nothing of the backend; then the backend is asked and
the sink is flushed.
-/

namespace BundleInspect.Dump

open Log

/-! ## Acts -/

structure Report (α : Type) where
  result : Except Error α
  events : List Event
  requests : List DumpRequest
  sink : Sink

/-- A part of a run that may ask the backend and use the sink. -/
def Act (α : Type) :=
  Sink → Report α

namespace Act

def andThen {α β : Type} (first : Act α) (next : α → Act β) : Act β := fun sink =>
  let before := first sink
  match before.result with
  | .ok a =>
    let after := next a before.sink
    ⟨after.result, before.events ++ after.events, before.requests ++ after.requests, after.sink⟩
  | .error e => ⟨.error e, before.events, before.requests, before.sink⟩

instance : Monad Act where
  pure a := fun sink => ⟨.ok a, [], [], sink⟩
  bind := andThen

def stage {α : Type} (s : Stage α) : Act α := fun sink =>
  ⟨s.result, s.events, [], sink⟩

def ask (backend : DumpBackend) (request : DumpRequest) : Act (Except Reason Unit) := fun sink =>
  let played := (backend request).play sink
  ⟨.ok played.result, played.events, [request], played.sink⟩

def flush : Act Unit := fun sink =>
  let (sink, outcome) := sink.flush
  ⟨outcome.mapError .io, [], [], sink⟩

end Act

/-! ## Commands -/

namespace Command

def request (c : Command) : Stage DumpRequest :=
  match c.target with
  | .config => pure (.config c.bundle)
  | .manifest => pure (.manifest c.bundle c.xpath)
  | .resources => do
    let predicate ← .ofExcept (Resource.Predicate.compile c.resourceId c.resourceName)
    .log (.compiledPredicate predicate)
    return .resources c.bundle predicate (c.printValues.getD false)

def prepare (view : View) (c : Command) : Stage DumpRequest := do
  c.validate view
  .log (.dumping c.target c.bundle)
  c.request

def execute (view : View) (backend : DumpBackend) (c : Command) : Act Unit := do
  let request ← .stage (c.prepare view)
  let answer ← .ask backend request
  .stage (.ofExcept (answer.mapError (.dumpFailed c.target.name)))
  .flush

def settings (args : DumpArgs) (target : Target) : List Setting :=
  [.bundle args.bundle, .target target] ++ args.xpath.toList.map .xpath ++
    args.values.toList.map .printValues ++ args.resource.toList.map .resource

def ofArgs (args : DumpArgs) : Stage Command := do
  let target ← .ofExcept (Target.resolve args.target)
  .log (.resolvedTarget target args.bundle)
  .ofExcept (Draft.ofSettings (settings args target)).build

end Command

def run (view : View) (backend : DumpBackend) (args : DumpArgs) : Act Unit := do
  let command ← .stage (Command.ofArgs args)
  command.execute view backend

end BundleInspect.Dump
