import BundleInspect.DeviceSpec.Decode
import BundleInspect.Text.Bytes

/-!
# Errors

What can go wrong, as causes: the command line asks for something impossible, a path is not what it
has to be, or the work itself fails. Each error has a message, a code, sometimes advice, a kind, and
the chain of reasons beneath it.
-/

namespace BundleInspect

inductive Complaint where
  | noBundle
  | idAndName
  | xpathOnResources
  | xpathOffManifest
  | resourceOffResources
  | valuesOffResources
  | unknownShell (name : String)
  | stated (text : String)
  deriving DecidableEq

def Complaint.message : Complaint → String
  | .noBundle => "Missing required value: bundle path."
  | .idAndName => "Cannot pass both resource ID and resource name. Pick one!"
  | .xpathOnResources => "Cannot pass an XPath expression when dumping resources."
  | .xpathOffManifest => "The XPath expression can only be passed when dumping the manifest."
  | .resourceOffResources => "The resource name/id can only be passed when dumping resources."
  | .valuesOffResources =>
    "Printing resource values can only be requested when dumping resources."
  | .unknownShell name =>
    s!"Unknown shell: {name}. Supported shells: bash, elvish, fish, powershell, zsh"
  | .stated text => text

/-! ## Reasons -/

inductive Operation where
  | dump
  | extraction
  | stated (name : String)
  deriving DecidableEq

def Operation.name : Operation → String
  | .dump => "dump"
  | .extraction => "extraction"
  | .stated name => name

def Operation.unavailable (o : Operation) : String :=
  s!"No {o.name} backend is linked into this build."

inductive Reason where
  /-- What somebody else says, with the chain of reasons beneath it. -/
  | stated (message : String) (beneath : List String)
  | unavailable (operation : Operation)
  | notText
  | isDirectory
  | badSpec (error : DeviceSpec.DecodeError)

def Reason.message : Reason → String
  | .stated message _ => message
  | .unavailable operation => operation.unavailable
  | .notText => "stream did not contain valid UTF-8"
  | .isDirectory => "Is a directory (os error 21)"
  | .badSpec error => error.message

def Reason.chain : Reason → List String
  | .stated message beneath => message :: beneath
  | reason => [reason.message]

/-! ## Errors -/

inductive Error where
  | invalidCommand (complaint : Complaint)
  | missingDumpTarget
  | unknownDumpTarget (given : String) (accepted : List String)
  | invalidResourceName (name : String)
  | fileNotFound (path : Path)
  | fileNotReadable (path : Path)
  | invalidOutputDirectory (path : Path)
  | deviceSpecReadFailed (path : Path) (reason : Reason)
  | extractionFailed (reason : Reason)
  | dumpFailed (target : String) (reason : Reason)
  | backendUnavailable (operation : Operation)
  | io (message : String)

/-- Whether the user can mend an error by asking for something else. -/
inductive ErrorKind where
  | invalidInput
  | execution
  deriving DecidableEq

namespace Error

def kind : Error → ErrorKind
  | invalidCommand _ | missingDumpTarget | unknownDumpTarget .. | invalidResourceName _
  | fileNotFound _ | fileNotReadable _ | invalidOutputDirectory _ => .invalidInput
  | deviceSpecReadFailed .. | extractionFailed _ | dumpFailed .. | backendUnavailable _
  | io _ => .execution

def message : Error → String
  | invalidCommand complaint => complaint.message
  | missingDumpTarget => "Target of the dump not found."
  | unknownDumpTarget given accepted =>
    s!"Unrecognized dump target: '{given}'. Accepted values are: [" ++
      ", ".intercalate accepted ++ "]"
  | invalidResourceName _ =>
    "Resource name must match the format '<type>/<name>', e.g. 'drawable/icon'."
  | fileNotFound path => s!"File '{path.display}' was not found."
  | fileNotReadable path => s!"File '{path.display}' is not readable."
  | invalidOutputDirectory _ =>
    "Output directory must be a valid directory or a non-existing path."
  | deviceSpecReadFailed path _ => s!"Failed to read device-spec.json from '{path.display}'."
  | extractionFailed _ => "Failed to extract APKs to the specified path."
  | dumpFailed target _ => s!"Failed to dump the {target} of the SDK bundle."
  | backendUnavailable operation => operation.unavailable
  | io message => s!"IO error: {message}"

def code (e : Error) : String :=
  "bundlekit::" ++ match e with
    | invalidCommand _ => "command::invalid"
    | missingDumpTarget => "command::missing_target"
    | unknownDumpTarget .. => "command::unknown_target"
    | invalidResourceName _ => "command::invalid_resource_name"
    | fileNotFound _ => "fs::not_found"
    | fileNotReadable _ => "fs::not_readable"
    | invalidOutputDirectory _ => "fs::invalid_output_directory"
    | deviceSpecReadFailed .. => "extract::device_spec_read_failed"
    | extractionFailed _ => "extract::failed"
    | dumpFailed .. => "dump::failed"
    | backendUnavailable _ => "backend::unavailable"
    | io _ => "fs::io_error"

def help? : Error → Option String
  | missingDumpTarget => some "Pass one of: manifest, resources, config"
  | invalidResourceName name =>
    some s!"Got '{name}'. Pass a decimal or hexadecimal resource ID, or '<type>/<name>'"
  | invalidOutputDirectory path => some s!"'{path.display}' exists and is not a directory"
  | deviceSpecReadFailed .. =>
    some "The device spec must be a JSON document describing the target device"
  | backendUnavailable _ =>
    some "The command line was valid; run it through a build that embeds a bundle reader"
  | _ => none

def causes : Error → List String
  | deviceSpecReadFailed _ reason | extractionFailed reason | dumpFailed _ reason => reason.chain
  | io message => [message]
  | _ => []

end Error
end BundleInspect
