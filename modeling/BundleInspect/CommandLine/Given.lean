import BundleInspect.CommandLine.Command
import BundleInspect.CommandLine.Misuse

/-!
# What was given

The values that the words of one level have given so far, and the command they make up.
-/

namespace BundleInspect.CommandLine

structure Given where
  verbose : Bool := false
  log : Option String := none
  bundle : Option Path := none
  xpath : Option String := none
  resource : Option String := none
  values : Option Bool := none
  apks : Option Path := none
  deviceSpec : Option Path := none
  outputDir : Option Path := none
  /-- The word that belongs to no setting. -/
  word : Option String := none
  deriving DecidableEq

/-! ## Values -/

def readText (value : Bytes) : Except Misuse String :=
  match value.text? with
  | some text => .ok text
  | none => .error .notText

def readPath (s : Setting) (value : Bytes) : Except Misuse Path :=
  if value = [] then .error (.noValue s) else .ok value

def readTruth (value : Bytes) : Except Misuse Bool :=
  if value = Bytes.ofText "true" then .ok true
  else if value = Bytes.ofText "false" then .ok false
  else .error (.badTruth value.display)

namespace Given

def has (g : Given) : Setting → Bool
  | .log => g.log.isSome
  | .bundle => g.bundle.isSome
  | .xpath => g.xpath.isSome
  | .resource => g.resource.isSome
  | .values => g.values.isSome
  | .apks => g.apks.isSome
  | .deviceSpec => g.deviceSpec.isSome
  | .outputDir => g.outputDir.isSome

def put (g : Given) (s : Setting) (value : Bytes) : Except Misuse Given :=
  match s with
  | .log => do return { g with log := some (← readText value) }
  | .bundle => do return { g with bundle := some (← readPath s value) }
  | .xpath => do return { g with xpath := some (← readText value) }
  | .resource => do return { g with resource := some (← readText value) }
  | .values => do return { g with values := some (← readTruth value) }
  | .apks => do return { g with apks := some (← readPath s value) }
  | .deviceSpec => do return { g with deviceSpec := some (← readPath s value) }
  | .outputDir => do return { g with outputDir := some (← readPath s value) }

def add (g : Given) (s : Setting) (value : Bytes) : Except Misuse Given :=
  if g.has s then .error (.repeated (.setting s)) else g.put s value

/-- Looks at the log filter of the environment, for want of another. -/
def consult (g : Given) (env : Option Bytes) : Except Misuse Unit :=
  match env with
  | some value => if g.has .log then .ok () else (readText value).map fun _ => ()
  | none => .ok ()

/-! ## The command -/

def lacking (g : Given) (needed : List Setting) : Misuse :=
  .missing ((needed.filter fun s => !g.has s).map .setting)

def command (g : Given) : CommandName → Except Misuse Command
  | .dumpSdkBundle =>
    match g.bundle with
    | some bundle => .ok (.dump ⟨g.word, bundle, g.xpath, g.resource, g.values⟩)
    | none => .error (g.lacking [.bundle])
  | .extractApk =>
    match g.apks, g.deviceSpec, g.outputDir with
    | some apks, some deviceSpec, some outputDir =>
      .ok (.extract ⟨apks, deviceSpec, outputDir⟩)
    | _, _, _ => .error (g.lacking [.apks, .deviceSpec, .outputDir])
  | .version => .ok .version
  | .completions =>
    match g.word with
    | some shell => .ok (.completions shell)
    | none => .error (.missing [.shell])

end Given
end BundleInspect.CommandLine
