import BundleInspect.Program.Outcome

/-!
# The command line program

Looks at the paths that the command line names, and prints the answer.
-/

namespace BundleInspect

def look (path : Path) : IO (Option Item) := do
  match path.text? with
  | none => return none
  | some text =>
    try
      let real ← IO.FS.realPath text
      if ← real.isDir then
        try
          discard real.readDir
          return some .directory
        catch _ => return some .closedDirectory
      let contents? ← try some <$> IO.FS.readBinFile real catch _ => pure none
      return some (match contents? with
        | some contents => .file contents.toList
        | none => .socket)
    catch _ => return none

def serve (support : Support) (args : List String) : IO UInt32 := do
  let env := (← IO.getEnv "BUNDLEKIT_LOG").map Bytes.ofText
  let words := args.map Bytes.ofText
  let seen ← (pathsOf env words).mapM fun path => return (path, ← look path)
  let outcome := answer support (fun path => (seen.lookup path).join) env words
  IO.print outcome.output
  IO.eprint outcome.errors
  return UInt32.ofNat outcome.exitCode

end BundleInspect
