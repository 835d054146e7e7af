import BundleInspect.Text.Bytes

/-!
# The grammar of command lines

The commands, the settings, which take a value, and the switches, which take none; which of them
belong to which command, and how their values are written.
-/

namespace BundleInspect.CommandLine

/-! ## Settings -/

inductive Setting where
  | log
  | bundle
  | xpath
  | resource
  | values
  | apks
  | deviceSpec
  | outputDir
  deriving DecidableEq, Repr

namespace Setting

def all : List Setting :=
  [log, bundle, xpath, resource, values, apks, deviceSpec, outputDir]

def long : Setting → String
  | log => "log"
  | bundle => "bundle"
  | xpath => "xpath"
  | resource => "resource"
  | values => "values"
  | apks => "apks"
  | deviceSpec => "device-spec"
  | outputDir => "output-dir"

def usage (s : Setting) : String :=
  "--" ++ s.long ++ match s with
    | log => " <FILTER>"
    | bundle => " <sdk.asb>"
    | xpath => " </manifest/@package>"
    | resource => " <0x7f030001>"
    | values => "[=<BOOL>]"
    | apks => " <app.apks>"
    | deviceSpec => " <device-spec.json>"
    | outputDir => " <DIR>"

/-- `--values` takes a joined value only, and means yes without one. -/
def takesNextWord (s : Setting) : Bool :=
  s != values

/-- The next word is the value even if it begins with a hyphen. -/
def takesAnyWord (s : Setting) : Bool :=
  s == resource

end Setting

/-! ## Switches -/

inductive Switch where
  | verbose
  | help
  | version
  deriving DecidableEq, Repr

namespace Switch

def long : Switch → String
  | verbose => "verbose"
  | help => "help"
  | version => "version"

def short : Switch → Char
  | verbose => 'v'
  | help => 'h'
  | version => 'V'

def usage (s : Switch) : String :=
  "--" ++ s.long

end Switch

/-! ## Commands -/

inductive CommandName where
  | dumpSdkBundle
  | extractApk
  | version
  | completions
  deriving DecidableEq, Repr

namespace CommandName

def all : List CommandName :=
  [dumpSdkBundle, extractApk, version, completions]

def word : CommandName → String
  | dumpSdkBundle => "dump-sdk-bundle"
  | extractApk => "extract-apk"
  | version => "version"
  | completions => "completions"

def ofWord? (w : Word) : Option CommandName :=
  all.find? fun c => Bytes.ofText c.word == w

end CommandName

def helpWord : Word :=
  Bytes.ofText "help"

/-! ## Levels -/

/-- The words up to the command, or those after it. -/
inductive Level where
  | root
  | command (name : CommandName)
  deriving DecidableEq, Repr

namespace Level

def settings : Level → List Setting
  | root => [.log]
  | command .dumpSdkBundle => [.bundle, .xpath, .resource, .values, .log]
  | command .extractApk => [.apks, .deviceSpec, .outputDir, .log]
  | command .version => [.log]
  | command .completions => [.log]

def switches : Level → List Switch
  | root => [.verbose, .help, .version]
  | command _ => [.verbose, .help]

def wordUsage? : Level → Option String
  | command .dumpSdkBundle => some "[TARGET]"
  | command .completions => some "<SHELL>"
  | _ => none

def setting? (l : Level) (name : String) : Option Setting :=
  l.settings.find? (·.long == name)

def longSwitch? (l : Level) (name : String) : Option Switch :=
  l.switches.find? (·.long == name)

def shortSwitch? (l : Level) (c : Char) : Option Switch :=
  l.switches.find? (·.short == c)

end Level
end BundleInspect.CommandLine
