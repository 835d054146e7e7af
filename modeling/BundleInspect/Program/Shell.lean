import BundleInspect.Error
import BundleInspect.Text.Lowercase

/-!
# Shells

The shells that completions can be printed for, by their names in any case.
-/

namespace BundleInspect

inductive Shell where
  | bash
  | elvish
  | fish
  | powerShell
  | zsh
  deriving DecidableEq, Repr

namespace Shell

def table : List (String × Shell) :=
  [("bash", bash), ("elvish", elvish), ("fish", fish), ("powershell", powerShell),
    ("pwsh", powerShell), ("zsh", zsh)]

def ofName (name : String) : Except Error Shell :=
  match table.lookup (Text.lower name) with
  | some shell => .ok shell
  | none => .error (.invalidCommand (.unknownShell name))

end Shell
end BundleInspect
