/-!
# Device specs

What is known about the device that APKs are extracted for, and the names its fields have in a
document.
-/

namespace BundleInspect

structure SdkRuntime where
  supported : Bool := false
  deriving DecidableEq, Repr

/-- What a document does not name has the value given here. -/
structure DeviceSpec where
  /-- In order of preference. -/
  supportedAbis : List String := []
  supportedLocales : List String := []
  deviceFeatures : List String := []
  glExtensions : List String := []
  screenDensity : UInt32 := 0
  sdkVersion : Int32 := 0
  codename : String := ""
  sdkRuntime : Option SdkRuntime := none
  /-- In bytes. -/
  ram : Int64 := 0
  buildBrand : String := ""
  buildDevice : String := ""
  socManufacturer : String := ""
  socModel : String := ""
  deviceTier : Option Int32 := none
  deviceGroups : List String := []
  countrySet : Option String := none
  deriving DecidableEq

namespace DeviceSpec

def empty : DeviceSpec :=
  {}

/-! ## Fields and their names -/

inductive Field where
  | supportedAbis
  | supportedLocales
  | deviceFeatures
  | glExtensions
  | screenDensity
  | sdkVersion
  | codename
  | sdkRuntime
  | ram
  | buildBrand
  | buildDevice
  | socManufacturer
  | socModel
  | deviceTier
  | deviceGroups
  | countrySet
  deriving DecidableEq, Repr

/-- In the order of lists and of printed documents. -/
def Field.all : List Field :=
  [.supportedAbis, .supportedLocales, .deviceFeatures, .glExtensions, .screenDensity, .sdkVersion,
    .codename, .sdkRuntime, .ram, .buildBrand, .buildDevice, .socManufacturer, .socModel,
    .deviceTier, .deviceGroups, .countrySet]

theorem Field.mem_all (f : Field) : f ∈ Field.all := by
  cases f <;> decide

theorem Field.nodup_all : Field.all.Nodup := by
  decide

def Field.name : Field → String
  | .supportedAbis => "supportedAbis"
  | .supportedLocales => "supportedLocales"
  | .deviceFeatures => "deviceFeatures"
  | .glExtensions => "glExtensions"
  | .screenDensity => "screenDensity"
  | .sdkVersion => "sdkVersion"
  | .codename => "codename"
  | .sdkRuntime => "sdkRuntime"
  | .ram => "ram"
  | .buildBrand => "buildBrand"
  | .buildDevice => "buildDevice"
  | .socManufacturer => "socManufacturer"
  | .socModel => "socModel"
  | .deviceTier => "deviceTier"
  | .deviceGroups => "deviceGroups"
  | .countrySet => "countrySet"

def Field.alias? : Field → Option String
  | .supportedAbis => some "supported_abis"
  | .supportedLocales => some "supported_locales"
  | .deviceFeatures => some "device_features"
  | .glExtensions => some "gl_extensions"
  | .screenDensity => some "screen_density"
  | .sdkVersion => some "sdk_version"
  | .codename => none
  | .sdkRuntime => some "sdk_runtime"
  | .ram => none
  | .buildBrand => some "build_brand"
  | .buildDevice => some "build_device"
  | .socManufacturer => some "soc_manufacturer"
  | .socModel => some "soc_model"
  | .deviceTier => some "device_tier"
  | .deviceGroups => some "device_groups"
  | .countrySet => some "country_set"

def Field.spellings (f : Field) : List String :=
  f.name :: f.alias?.toList

def acceptedKeys : List String :=
  Field.all.flatMap Field.spellings

def Field.ofKey? (key : String) : Option Field :=
  Field.all.find? fun f => f.spellings.contains key

theorem Field.ofKey?_of_mem {f : Field} {key : String} (h : key ∈ f.spellings) :
    Field.ofKey? key = some f := by
  have hall : ∀ f ∈ Field.all, ∀ key ∈ f.spellings, Field.ofKey? key = some f := by
    decide
  exact hall f f.mem_all key h

theorem Field.ofKey?_eq_some_iff {f : Field} {key : String} :
    Field.ofKey? key = some f ↔ key ∈ f.spellings := by
  constructor
  · intro h
    have hmem := List.find?_some h
    simpa using hmem
  · exact Field.ofKey?_of_mem

end DeviceSpec
end BundleInspect
