import BundleInspect.CommandLine.Reader

/-!
# Help

The texts that are shown when help is asked for. The current log filter of the environment stands
in the description of its setting. It is shown as plain text; an escape sequence that it leaves
unfinished reaches up to the name in the next row.
-/

namespace BundleInspect.CommandLine.Help

/-! ## Layout -/

def spaces (n : Nat) : String :=
  String.ofList (List.replicate n ' ')

/-- A text whose lines after the first start at a column. -/
def hanging (column : Nat) (text : String) : String :=
  ("\n" ++ spaces column).intercalate ((text.toList.splitOn '\n').map String.ofList)

/-- What stands before a name, and the name with everything after it. -/
structure Row where
  indent : String
  body : String

def row (column indent : Nat) (name about : String) : Row :=
  { indent := spaces indent
    body := name ++ spaces (column - indent - name.length) ++ hanging column about ++ "\n" }

def block (indent : Nat) (name about : String) : Row :=
  { indent := "\n" ++ spaces indent
    body := name ++ "\n" ++ spaces 10 ++ hanging 10 about ++ "\n" }

def rowsAfter : String → List Row → String
  | body, [] => Text.plain body
  | body, r :: more => Text.plain (body ++ r.indent) ++ rowsAfter r.body more

def table (heading : String) (rows : List Row) : String :=
  rowsAfter (heading ++ ":\n") rows

/-! ## Descriptions -/

def commandAbout : CommandName → String
  | .dumpSdkBundle => "Print files or values from an SDK bundle in a human-readable form"
  | .extractApk => "Extract the APKs matching a device spec from an .apks archive"
  | .version => "Show version information"
  | .completions => "Generate shell completions"

def helpAbout : String :=
  "Print this message or the help of the given subcommand(s)"

def filterAbout : String :=
  "Log filter, e.g. `bundlekit=trace` (overrides --verbose)"

def filterSource (env : Option String) : String :=
  "[env: BUNDLEKIT_LOG=" ++ env.getD "" ++ "]"

def settingAbout (env : Option String) : Setting → String
  | .log => filterAbout ++ " " ++ filterSource env
  | .bundle => "Path to the SDK bundle"
  | .xpath =>
    "XPath expression selecting the part of the manifest to print. Only applies when dumping " ++
      "the manifest"
  | .resource =>
    "Name or ID of the resource to look up. Only applies when dumping resources. IDs may be " ++
      "decimal or hexadecimal; names must follow '<type>/<name>', e.g. 'drawable/icon'"
  | .values =>
    "Also print the values of the resources. Only applies when dumping resources " ++
      "[possible values: true, false]"
  | .apks => "Path to the .apks archive"
  | .deviceSpec => "Path to the JSON device spec"
  | .outputDir => "Directory the matching APKs are written to. Created if missing"

def verboseAbout : String :=
  "Enable verbose (debug) logging on stderr"

/-! ## Rows -/

def settingRow (env : Option String) (column : Nat) (s : Setting) : Row :=
  row column 6 s.usage (settingAbout env s)

def verboseRow (column : Nat) : Row :=
  row column 2 "-v, --verbose" verboseAbout

def helpRow (column : Nat) : Row :=
  row column 2 "-h, --help" "Print help"

def commandRow (c : CommandName) : Row :=
  row 19 2 c.word (commandAbout c)

def commandTable : String :=
  table "Commands"
    [commandRow .dumpSdkBundle, commandRow .extractApk, commandRow .completions,
      row 19 2 "help" helpAbout]

def rootExamples : String :=
  "Examples:\n" ++
  "   bundlekit dump-sdk-bundle manifest --bundle=sdk.asb       # Print the manifest\n" ++
  "   bundlekit dump-sdk-bundle resources --bundle=sdk.asb      # Print all resources\n" ++
  "   bundlekit dump-sdk-bundle config --bundle=sdk.asb         # Print the bundle config\n" ++
  "   bundlekit extract-apk --apks=app.apks --device-spec=device.json --output-dir=out\n"

/-! ## Topics -/

def brief (env : Option String) : String :=
  "Inspect SDK bundles and extract device-targeted APKs\n\n" ++
  "Usage: bundlekit [OPTIONS] <COMMAND>\n\n" ++
  commandTable ++ "\n" ++
  table "Options"
    [verboseRow 22, settingRow env 22 .log,
      row 22 2 "-h, --help" "Print help (see more with '--help')",
      row 22 2 "-V, --version" "Print version"] ++
  "\n" ++ rootExamples

def full (env : Option String) : String :=
  "bundlekit prints the manifest, resources and configuration of an SDK bundle in a " ++
  "human-readable form, and extracts the APKs matching a device spec from an .apks archive.\n\n" ++
  "Usage: bundlekit [OPTIONS] <COMMAND>\n\n" ++
  commandTable ++ "\n" ++
  table "Options"
    [{ block 2 "-v, --verbose" verboseAbout with indent := spaces 2 },
      block 6 "--log <FILTER>" (filterAbout ++ "\n\n" ++ filterSource env),
      block 2 "-h, --help" "Print help (see a summary with '-h')",
      block 2 "-V, --version" "Print version"] ++
  "\n" ++ rootExamples

def heading (c : CommandName) (usage : String) : String :=
  commandAbout c ++ "\n\nUsage: bundlekit " ++ c.word ++ " [OPTIONS]" ++ usage ++ "\n\n"

def sample (purpose line : String) : String :=
  purpose ++ ":\n    bundlekit " ++ line ++ "\n"

def dumpExamples : String :=
  "EXAMPLES:\n  " ++
  sample "Print the AndroidManifest.xml of the SDK bundle"
    "dump-sdk-bundle manifest --bundle=/tmp/sdk.asb" ++ "\n" ++
  sample "Print the package of the SDK bundle"
    "dump-sdk-bundle manifest --bundle=/tmp/sdk.asb --xpath=/manifest/@package" ++ "\n" ++
  sample "Print all the resources present in the SDK bundle"
    "dump-sdk-bundle resources --bundle=/tmp/sdk.asb" ++ "\n" ++
  sample "Print a resource's configs from its resource ID"
    "dump-sdk-bundle resources --bundle=/tmp/sdk.asb --resource=0x7f0e013a" ++ "\n" ++
  sample "Print a resource's configs and values from its type and name"
    "dump-sdk-bundle resources --bundle=/tmp/sdk.asb --resource=drawable/icon --values" ++ "\n" ++
  sample "Print the SDK bundle configuration file"
    "dump-sdk-bundle config --bundle=/tmp/sdk.asb"

def dumpHelp (env : Option String) : String :=
  heading .dumpSdkBundle " --bundle <sdk.asb> [TARGET]" ++
  "Arguments:\n  [TARGET]  What to print: manifest, resources or config\n\n" ++
  table "Options"
    [settingRow env 36 .bundle, verboseRow 36, settingRow env 36 .log, settingRow env 36 .xpath,
      settingRow env 36 .resource, settingRow env 36 .values, helpRow 36] ++
  "\n" ++ dumpExamples

def extractHelp (env : Option String) : String :=
  heading .extractApk
    " --apks <app.apks> --device-spec <device-spec.json> --output-dir <DIR>" ++
  table "Options"
    [settingRow env 40 .apks, verboseRow 40, settingRow env 40 .deviceSpec, settingRow env 40 .log,
      settingRow env 40 .outputDir, helpRow 40] ++
  "\nEXAMPLES:\n  " ++
  sample "Extract the APKs matching a device"
    ("extract-apk --apks=/tmp/app.apks --device-spec=/tmp/device.json " ++
      "--output-dir=/tmp/apks")

def versionHelp (env : Option String) : String :=
  heading .version "" ++ table "Options" [verboseRow 22, settingRow env 22 .log, helpRow 22]

def completionsHelp (env : Option String) : String :=
  heading .completions " <SHELL>" ++
  "Arguments:\n  <SHELL>  Shell type (bash, elvish, fish, powershell, zsh)\n\n" ++
  table "Options" [verboseRow 22, settingRow env 22 .log, helpRow 22] ++
  "\nEXAMPLES:\n  " ++
  sample "Generate bash completions"
    "completions bash > ~/.bash_completion.d/bundlekit" ++ "\n" ++
  sample "Generate zsh completions" "completions zsh > ~/.zfunc/_bundlekit" ++ "\n" ++
  sample "Generate fish completions"
    "completions fish > ~/.config/fish/completions/bundlekit.fish" ++ "\n" ++
  sample "Generate PowerShell completions" "completions powershell"

def helpHelp : String :=
  helpAbout ++ "\n\nUsage: bundlekit help [COMMAND]...\n\n" ++
  "Arguments:\n  [COMMAND]...  Print help for the subcommand(s)\n"

def text (env : Option String) : Topic → String
  | .brief => brief env
  | .full => full env
  | .command .dumpSdkBundle => dumpHelp env
  | .command .extractApk => extractHelp env
  | .command .version => versionHelp env
  | .command .completions => completionsHelp env
  | .help => helpHelp

end BundleInspect.CommandLine.Help

namespace BundleInspect.CommandLine.Stop

def message (env : Option Bytes) : Stop → String
  | .help topic => Help.text (env.map Bytes.display) topic
  | .version => "bundlekit 0.3.1\n"
  | .overview => Help.brief (env.map Bytes.display)
  | .misuse m => m.message

def exitCode : Stop → Nat
  | .help _ | .version => 0
  | .overview | .misuse _ => 2

end BundleInspect.CommandLine.Stop
