import BundleInspect.DeviceSpec.Basic
import BundleInspect.Json.Printer

/-!
# Printing device specs

The compact document of a spec. Empty lists and texts and absent values are left out; the density,
the version and the size are always there.
-/

namespace BundleInspect.DeviceSpec

open Json

def printStringsUnlessEmpty (texts : List String) : Option (List Char) :=
  if texts = [] then none else some (printStrings texts)

def printStringUnlessEmpty (text : String) : Option (List Char) :=
  if text = "" then none else some (printString text)

def printRuntime (r : SdkRuntime) : List Char :=
  printObject [printMember "supported" (printBoolean r.supported)]

def Field.print? (f : Field) (s : DeviceSpec) : Option (List Char) :=
  match f with
  | .supportedAbis => printStringsUnlessEmpty s.supportedAbis
  | .supportedLocales => printStringsUnlessEmpty s.supportedLocales
  | .deviceFeatures => printStringsUnlessEmpty s.deviceFeatures
  | .glExtensions => printStringsUnlessEmpty s.glExtensions
  | .screenDensity => some (printInteger s.screenDensity.toNat)
  | .sdkVersion => some (printInteger s.sdkVersion.toInt)
  | .codename => printStringUnlessEmpty s.codename
  | .sdkRuntime => s.sdkRuntime.map printRuntime
  | .ram => some (printInteger s.ram.toInt)
  | .buildBrand => printStringUnlessEmpty s.buildBrand
  | .buildDevice => printStringUnlessEmpty s.buildDevice
  | .socManufacturer => printStringUnlessEmpty s.socManufacturer
  | .socModel => printStringUnlessEmpty s.socModel
  | .deviceTier => s.deviceTier.map fun t => printInteger t.toInt
  | .deviceGroups => printStringsUnlessEmpty s.deviceGroups
  | .countrySet => s.countrySet.map printString

def Field.member? (s : DeviceSpec) (f : Field) : Option (List Char) :=
  (f.print? s).map (printMember f.name)

def encodeChars (s : DeviceSpec) : List Char :=
  printObject (Field.all.filterMap (Field.member? s))

def encode (s : DeviceSpec) : String :=
  String.ofList s.encodeChars

end BundleInspect.DeviceSpec
