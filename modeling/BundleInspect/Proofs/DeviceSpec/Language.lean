import BundleInspect.DeviceSpec.Basic
import BundleInspect.Proofs.Json.Grammar
import BundleInspect.Text.Blank
import Mathlib.Data.List.Forall2

/-!
# The language of device specs

Which documents stand for a device spec: what may be written for each field, and how the fields are
put together. Nothing here says how they are read.
-/

namespace BundleInspect.DeviceSpec

open Json

/-! ## Values of the fields -/

inductive Content where
  | texts (xs : List String)
  | text (x : String)
  | unsigned (n : UInt32)
  | signed (n : Int32)
  | runtime (r : Option SdkRuntime)
  | size (n : Int64)
  | tier (t : Option Int32)
  | country (x : Option String)

def Field.content (s : DeviceSpec) : Field → Content
  | .supportedAbis => .texts s.supportedAbis
  | .supportedLocales => .texts s.supportedLocales
  | .deviceFeatures => .texts s.deviceFeatures
  | .glExtensions => .texts s.glExtensions
  | .screenDensity => .unsigned s.screenDensity
  | .sdkVersion => .signed s.sdkVersion
  | .codename => .text s.codename
  | .sdkRuntime => .runtime s.sdkRuntime
  | .ram => .size s.ram
  | .buildBrand => .text s.buildBrand
  | .buildDevice => .text s.buildDevice
  | .socManufacturer => .text s.socManufacturer
  | .socModel => .text s.socModel
  | .deviceTier => .tier s.deviceTier
  | .deviceGroups => .texts s.deviceGroups
  | .countrySet => .country s.countrySet

/-- The spec `s` with what a field holds in `t`. -/
def Field.put (t s : DeviceSpec) : Field → DeviceSpec
  | .supportedAbis => { s with supportedAbis := t.supportedAbis }
  | .supportedLocales => { s with supportedLocales := t.supportedLocales }
  | .deviceFeatures => { s with deviceFeatures := t.deviceFeatures }
  | .glExtensions => { s with glExtensions := t.glExtensions }
  | .screenDensity => { s with screenDensity := t.screenDensity }
  | .sdkVersion => { s with sdkVersion := t.sdkVersion }
  | .codename => { s with codename := t.codename }
  | .sdkRuntime => { s with sdkRuntime := t.sdkRuntime }
  | .ram => { s with ram := t.ram }
  | .buildBrand => { s with buildBrand := t.buildBrand }
  | .buildDevice => { s with buildDevice := t.buildDevice }
  | .socManufacturer => { s with socManufacturer := t.socManufacturer }
  | .socModel => { s with socModel := t.socModel }
  | .deviceTier => { s with deviceTier := t.deviceTier }
  | .deviceGroups => { s with deviceGroups := t.deviceGroups }
  | .countrySet => { s with countrySet := t.countrySet }

def Blanks (cs : List Char) : Prop :=
  ∀ c ∈ cs, Text.isBlank c = true

/-- Decimal digits after a sign, which may be left out. -/
inductive Signed : List Char → Int → Prop where
  | plain (ds : List Char) (n : Nat) : Text.valueIn? 10 ds = some n → Signed ds n
  | plus (ds : List Char) (n : Nat) : Text.valueIn? 10 ds = some n → Signed ('+' :: ds) n
  | minus (ds : List Char) (n : Nat) : Text.valueIn? 10 ds = some n → Signed ('-' :: ds) (-n)

/-- A text that is a number, with blanks around it. -/
def Numeric (cs : List Char) (i : Int) : Prop :=
  ∃ b v b', cs = b ++ v ++ b' ∧ Blanks b ∧ Blanks b' ∧ Signed v i

inductive Size : List Char → Int64 → Prop where
  | number (v : List Char) (n : Int64) : Integral v n.toInt → Size v n
  | text (v : List Char) (t : String) (n : Int64) :
    Quoted v t → Numeric t.toList n.toInt → Size v n

/-- One member at most, or one element. -/
inductive Runtime : List Char → SdkRuntime → Prop where
  | unnamed (cs : List Char) : Membered cs [] → Runtime cs {}
  | named (cs v : List Char) (b : Bool) :
    Membered cs [("supported", v)] → Truth v b → Runtime cs ⟨b⟩
  | listed (cs : List Char) (bs : List Bool) :
    Listed Truth cs bs → bs.length ≤ 1 → Runtime cs ⟨bs.headD false⟩

def Content.Written : Content → List Char → Prop
  | .texts xs, v => Listed Quoted v xs
  | .text x, v => Quoted v x
  | .unsigned n, v => Integral v n.toNat
  | .signed n, v => Integral v n.toInt
  | .runtime r, v => Nullable Runtime v r
  | .size n, v => Size v n
  | .tier t, v => Nullable (fun v (n : Int32) => Integral v n.toInt) v t
  | .country x, v => Nullable Quoted v x

/-! ## Documents -/

/-- The keys name the fields, under either of their names. -/
def Names (keys : List String) (fs : List Field) : Prop :=
  List.Forall₂ (fun key f => key ∈ f.spellings) keys fs

/-- The fields of `s'` hold the values, and all others what `s` holds. -/
def Fills (s : DeviceSpec) (fs : List Field) (vs : List (List Char)) (s' : DeviceSpec) : Prop :=
  List.Forall₂ (fun f v => (f.content s').Written v) fs vs ∧
    ∀ f ∉ fs, f.content s' = f.content s

/-- Every field once at most, or the first fields in order. -/
inductive Document : List Char → DeviceSpec → Prop where
  | object (cs : List Char) (ms : List (String × List Char)) (fs : List Field) (s : DeviceSpec) :
    Membered cs ms → Names (ms.map Prod.fst) fs → fs.Nodup →
      Fills empty fs (ms.map Prod.snd) s → Document cs s
  | list (cs : List Char) (vs : List (List Char)) (s : DeviceSpec) :
    Listed (fun v v' => v = v') cs vs → vs.length ≤ Field.all.length →
      Fills empty (Field.all.take vs.length) vs s → Document cs s

def Denotes (text : String) (s : DeviceSpec) : Prop :=
  ∃ w cs w', text.toList = w ++ cs ++ w' ∧ Spaces w ∧ Spaces w' ∧ Document cs s

/-! ## Fields -/

theorem eq_of_content {s s' : DeviceSpec} (h : ∀ f : Field, f.content s = f.content s') :
    s = s' := by
  have hall : ∀ f ∈ Field.all, f.content s = f.content s' := fun f _ => h f
  cases s
  cases s'
  simpa [Field.all, Field.content] using hall

theorem Field.content_put (f g : Field) (t s : DeviceSpec) :
    g.content (f.put t s) = if g = f then f.content t else g.content s := by
  cases f <;> cases g <;> rfl

end BundleInspect.DeviceSpec
