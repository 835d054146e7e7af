import BundleInspect.DeviceSpec.Basic
import BundleInspect.DeviceSpec.Memory

/-!
# Reading device specs

A document is an object whose keys name fields, or a list that gives the fields in order. A fault is
told with the place where reading stopped.
-/

namespace BundleInspect.DeviceSpec

open Json

/-! ## Values of the fields -/

def runtimeEntry (seen : Option Bool) (key : String) (cs : List Char) :
    Except Fault (Option Bool × List Char) := do
  if key = "supported" then
    if seen.isSome then stopAt (.repeatedField key) (leaveObject cs)
    else
      let (b, rest) ← boolean (← colon cs)
      return (some b, rest)
  else stopAt (.unknownField key ["supported"]) (leaveObject cs)

def runtimeOfObject (cs : List Char) : Except Fault (SdkRuntime × List Char) := do
  let (seen, rest) ← object runtimeEntry none cs
  return (⟨seen.getD false⟩, rest)

def runtimeOfList (cs : List Char) : Except Fault (SdkRuntime × List Char) := do
  match ← nextElement true cs with
  | (false, rest) => return ({}, ← closeList rest)
  | (true, rest) =>
    let (b, rest) ← boolean rest
    return (⟨b⟩, ← closeList rest)

def runtime (cs : List Char) : Except Fault (SdkRuntime × List Char) :=
  record "SdkRuntime" runtimeOfObject runtimeOfList cs

/-- The document itself is the first of 127 levels. -/
def sizeDepth : Nat :=
  126

/-- The place of a fault is where the record around it is left. -/
def memory (leave : List Char → List Char) (cs : List Char) : Except Fault (Int64 × List Char) := do
  let (value, rest) ← scan sizeDepth cs
  match bytesOf value with
  | .ok n => return (n, rest)
  | .error cause => stopAt cause (leave rest)

def Field.read (leave : List Char → List Char) (f : Field) (s : DeviceSpec) (cs : List Char) :
    Except Fault (DeviceSpec × List Char) :=
  match f with
  | .supportedAbis => do let (x, r) ← texts cs; return ({ s with supportedAbis := x }, r)
  | .supportedLocales => do let (x, r) ← texts cs; return ({ s with supportedLocales := x }, r)
  | .deviceFeatures => do let (x, r) ← texts cs; return ({ s with deviceFeatures := x }, r)
  | .glExtensions => do let (x, r) ← texts cs; return ({ s with glExtensions := x }, r)
  | .screenDensity => do let (x, r) ← unsigned32 cs; return ({ s with screenDensity := x }, r)
  | .sdkVersion => do let (x, r) ← signed32 cs; return ({ s with sdkVersion := x }, r)
  | .codename => do let (x, r) ← text cs; return ({ s with codename := x }, r)
  | .sdkRuntime => do let (x, r) ← optional runtime cs; return ({ s with sdkRuntime := x }, r)
  | .ram => do let (x, r) ← memory leave cs; return ({ s with ram := x }, r)
  | .buildBrand => do let (x, r) ← text cs; return ({ s with buildBrand := x }, r)
  | .buildDevice => do let (x, r) ← text cs; return ({ s with buildDevice := x }, r)
  | .socManufacturer => do let (x, r) ← text cs; return ({ s with socManufacturer := x }, r)
  | .socModel => do let (x, r) ← text cs; return ({ s with socModel := x }, r)
  | .deviceTier => do let (x, r) ← optional signed32 cs; return ({ s with deviceTier := x }, r)
  | .deviceGroups => do let (x, r) ← texts cs; return ({ s with deviceGroups := x }, r)
  | .countrySet => do let (x, r) ← optional text cs; return ({ s with countrySet := x }, r)

/-! ## Documents -/

structure Progress where
  spec : DeviceSpec := {}
  seen : List Field := []

/-- A field is named once, under either of its names. -/
def entry (p : Progress) (key : String) (cs : List Char) : Except Fault (Progress × List Char) := do
  match Field.ofKey? key with
  | none => stopAt (.unknownField key acceptedKeys) (leaveObject cs)
  | some f =>
    if f ∈ p.seen then stopAt (.repeatedField f.name) (leaveObject cs)
    else
      let (spec, rest) ← f.read leaveObject p.spec (← colon cs)
      return (⟨spec, f :: p.seen⟩, rest)

def ofObject (cs : List Char) : Except Fault (DeviceSpec × List Char) := do
  let (p, rest) ← object entry {} cs
  return (p.spec, rest)

def values : List Field → Bool → DeviceSpec → List Char → Except Fault (DeviceSpec × List Char)
  | [], _, s, cs => .ok (s, cs)
  | f :: fields, first, s, cs => do
    match ← nextElement first cs with
    | (false, rest) => return (s, rest)
    | (true, rest) =>
      let (s, rest) ← f.read leaveList s rest
      values fields false s rest

def ofList (cs : List Char) : Except Fault (DeviceSpec × List Char) := do
  let (s, rest) ← values Field.all true {} cs
  return (s, ← closeList rest)

def document (cs : List Char) : Except Fault DeviceSpec := do
  let (s, rest) ← record "DeviceSpec" ofObject ofList cs
  finish rest
  return s

structure DecodeError where
  cause : Cause
  place : Place

def DecodeError.message (e : DecodeError) : String :=
  s!"{e.cause.message} at line {e.place.line} column {e.place.column}"

def decode (text : String) : Except DecodeError DeviceSpec :=
  match document text.toList with
  | .ok s => .ok s
  | .error fault => .error ⟨fault.cause, fault.place text.toList⟩

end BundleInspect.DeviceSpec
