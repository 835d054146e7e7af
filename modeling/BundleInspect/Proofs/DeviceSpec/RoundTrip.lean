import BundleInspect.DeviceSpec.Encode
import BundleInspect.Proofs.DeviceSpec.Decoding
import BundleInspect.Proofs.Json.Printing
import Mathlib.Data.List.Nodup

/-!
# What is printed of a spec is read back

`decode_encode`: the document that a spec is printed as is a document of that spec.
-/

namespace BundleInspect.DeviceSpec

open Json

/-! ## Fields -/

theorem listed_of_printStringsUnlessEmpty {texts : List String} {v : List Char}
    (h : printStringsUnlessEmpty texts = some v) : Listed Quoted v texts := by
  unfold printStringsUnlessEmpty at h
  split at h
  · cases h
  · cases h
    exact listed_printStrings texts

theorem quoted_of_printStringUnlessEmpty {text : String} {v : List Char}
    (h : printStringUnlessEmpty text = some v) : Quoted v text := by
  unfold printStringUnlessEmpty at h
  split at h
  · cases h
  · cases h
    exact quoted_printString text

theorem runtime_printRuntime (r : SdkRuntime) : Runtime (printRuntime r) r :=
  .named _ _ r.supported (membered_printObject [("supported", printBoolean r.supported)])
    (truth_printBoolean r.supported)

theorem nullable_of_map {α : Type} {Value : List Char → α → Prop} {print : α → List Char}
    (hprint : ∀ x, Value (print x) x) {x : Option α} {v : List Char}
    (h : x.map print = some v) : Nullable Value v x := by
  obtain ⟨y, rfl, rfl⟩ := Option.map_eq_some_iff.mp h
  exact .value _ y (hprint y)

theorem Field.written_of_print? {f : Field} {s : DeviceSpec} {v : List Char}
    (h : f.print? s = some v) : (f.content s).Written v := by
  cases f with
  | supportedAbis | supportedLocales | deviceFeatures | glExtensions | deviceGroups =>
    exact listed_of_printStringsUnlessEmpty h
  | codename | buildBrand | buildDevice | socManufacturer | socModel =>
    exact quoted_of_printStringUnlessEmpty h
  | screenDensity | sdkVersion =>
    cases h
    exact integral_printInteger _
  | ram =>
    cases h
    exact .number _ _ (integral_printInteger _)
  | sdkRuntime => exact nullable_of_map runtime_printRuntime h
  | deviceTier => exact nullable_of_map (fun t => integral_printInteger t.toInt) h
  | countrySet => exact nullable_of_map quoted_printString h

theorem Field.content_of_print?_eq_none {f : Field} {s : DeviceSpec} (h : f.print? s = none) :
    f.content s = f.content empty := by
  cases f <;> simp [print?, printStringsUnlessEmpty, printStringUnlessEmpty] at h <;>
    simp [content, empty, h]

/-! ## Documents -/

def printed (s : DeviceSpec) : List (Field × List Char) :=
  Field.all.filterMap fun f => (f.print? s).map (f, ·)

theorem mem_printed_iff {s : DeviceSpec} {f : Field} {v : List Char} :
    (f, v) ∈ printed s ↔ f.print? s = some v := by
  simp [printed, Field.mem_all]

theorem encodeChars_eq (s : DeviceSpec) :
    s.encodeChars =
      printObject
        (((printed s).map fun p => (p.1.name, p.2)).map fun m => printMember m.1 m.2) := by
  simp only [encodeChars, printed, List.map_filterMap, Option.map_map, Function.comp_def]
  rfl

theorem nodup_printed (s : DeviceSpec) : ((printed s).map Prod.fst).Nodup := by
  rw [printed, List.map_filterMap]
  refine List.Nodup.filterMap ?_ Field.nodup_all
  intro f g h hf hg
  simp only [Option.map_map, Option.mem_def, Option.map_eq_some_iff] at hf hg
  obtain ⟨_, -, rfl⟩ := hf
  obtain ⟨_, -, rfl⟩ := hg
  rfl

theorem document_encodeChars (s : DeviceSpec) : Document s.encodeChars s := by
  rw [encodeChars_eq]
  refine .object _ _ ((printed s).map Prod.fst) s (membered_printObject _) ?_ (nodup_printed s)
    ⟨?_, ?_⟩
  · simp only [Names, List.map_map, List.forall₂_map_left_iff, List.forall₂_map_right_iff,
      List.forall₂_same]
    intro p _
    exact List.mem_cons_self
  · simp only [List.map_map, List.forall₂_map_left_iff, List.forall₂_map_right_iff,
      List.forall₂_same]
    rintro ⟨f, v⟩ hmem
    exact Field.written_of_print? (mem_printed_iff.mp hmem)
  · intro f hf
    refine Field.content_of_print?_eq_none ?_
    cases h : f.print? s with
    | none => rfl
    | some v => exact absurd (List.mem_map_of_mem (mem_printed_iff.mpr h)) hf

/-- Decoding undoes encoding. -/
theorem decode_encode (s : DeviceSpec) : decode (encode s) = .ok s :=
  decode_of_document (document_encodeChars s)

end BundleInspect.DeviceSpec
