import BundleInspect.CommandLine.Grammar
import BundleInspect.Text.Plain

/-!
# Misused command lines

What can be wrong with a command line, and what is said about it. Words of the command line are
shown as plain text.
-/

namespace BundleInspect.CommandLine

inductive Part where
  | setting (s : Setting)
  | switch (s : Switch)
  | shell
  deriving DecidableEq, Repr

def Part.usage : Part → String
  | .setting s => s.usage
  | .switch s => s.usage
  | .shell => "<SHELL>"

inductive Misuse where
  | unknownArgument (shown : String)
  | unknownCommand (shown : String)
  | repeated (part : Part)
  | noValue (setting : Setting)
  | badTruth (shown : String)
  | needlessValue (shown : String) (switch : Switch)
  | missing (parts : List Part)
  | notText
  | noCommand
  deriving DecidableEq

namespace Misuse

def truthValues : String :=
  "\n  [possible values: true, false]"

def valueWanted (s : Setting) : String :=
  s!"a value is required for '{s.usage}' but none was supplied"

def quoted (shown : String) : String :=
  "'" ++ Text.plain shown ++ "'"

def message : Misuse → String
  | unknownArgument shown => s!"error: unexpected argument {quoted shown} found"
  | unknownCommand shown => s!"error: unrecognized subcommand {quoted shown}"
  | repeated part => s!"error: the argument '{part.usage}' cannot be used multiple times"
  | noValue setting => "error: " ++ valueWanted setting
  | badTruth shown =>
    if shown = "" then "error: " ++ valueWanted .values ++ truthValues
    else s!"error: invalid value {quoted shown} for '{Setting.values.usage}'" ++ truthValues
  | needlessValue shown switch =>
    s!"error: unexpected value {quoted shown} for '{switch.usage}' found; no more were expected"
  | missing parts =>
    "error: the following required arguments were not provided:" ++
      String.join (parts.map fun p => "\n  " ++ p.usage)
  | notText => "error: invalid UTF-8 was detected in one or more arguments"
  | noCommand =>
    "error: 'bundlekit' requires a subcommand but one was not provided\n" ++
      "  [subcommands: dump-sdk-bundle, extract-apk, version, completions, help]"

end Misuse
end BundleInspect.CommandLine
