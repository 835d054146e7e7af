import BundleInspect.Except
import BundleInspect.Proofs.CommandLine.Occurrences

/-!
# What was given and what occurred

A setting that was given a value, the switch and the free word each stand for an occurrence. Giving
one more value makes one more occurrence hold, whose value fits, and changes no other.
-/

namespace BundleInspect.CommandLine

/-! ## Values -/

theorem readText_eq_ok_iff {value : Bytes} {text : String} :
    readText value = .ok text ↔ value = Bytes.ofText text := by
  unfold readText
  constructor
  · intro h
    split at h
    · next text' htext =>
      cases h
      exact (Bytes.ofText_of_text? htext).symm
    · cases h
  · rintro rfl
    rw [Bytes.text?_ofText]

theorem readPath_eq_ok_iff {s : Setting} {value path : Bytes} :
    readPath s value = .ok path ↔ value ≠ [] ∧ path = value := by
  unfold readPath
  split_ifs with h
  · simp [h]
  · simp [h, eq_comm]

theorem readTruth_eq_ok_iff {value : Bytes} {b : Bool} :
    readTruth value = .ok b ↔ value = Bytes.ofText (toString b) := by
  unfold readTruth
  constructor
  · intro h
    split_ifs at h with htrue hfalse
    · cases h
      exact htrue
    · cases h
      exact hfalse
  · rintro rfl
    cases b <;> decide

/-! ## What is given and what occurred -/

def Occurrence.Fits : Occurrence → Prop
  | .piece p => p.Fits
  | .verbose => True

namespace Given

def content (g : Given) : Setting → Option Bytes
  | .log => g.log.map Bytes.ofText
  | .bundle => g.bundle
  | .xpath => g.xpath.map Bytes.ofText
  | .resource => g.resource.map Bytes.ofText
  | .values => g.values.map fun b => Bytes.ofText (toString b)
  | .apks => g.apks
  | .deviceSpec => g.deviceSpec
  | .outputDir => g.outputDir

def Holds (g : Given) : Occurrence → Prop
  | .piece (.setting s value) => g.content s = some value
  | .piece (.word w) => g.word.map Bytes.ofText = some w
  | .verbose => g.verbose = true

/-- `g'` holds what `g` does and one occurrence more, whose value fits. -/
structure Gains (g : Given) (o : Occurrence) (g' : Given) : Prop where
  fits : o.Fits
  holds : ∀ o', g'.Holds o' ↔ g.Holds o' ∨ o' = o

/-- `g'` holds what `g` does and what occurred since. -/
structure Gathers (g : Given) (os : List Occurrence) (g' : Given) : Prop where
  fits : ∀ o ∈ os, o.Fits
  holds : ∀ o', g'.Holds o' ↔ g.Holds o' ∨ o' ∈ os

variable {g g' g'' : Given} {o : Occurrence} {os : List Occurrence} {s : Setting} {value : Bytes}

theorem not_holds_empty (o : Occurrence) : ¬ ({} : Given).Holds o := by
  cases o with
  | piece p =>
    cases p with
    | setting s value => cases s <;> simp [Holds, content]
    | word w => simp [Holds]
  | verbose => simp [Holds]

theorem Gathers.mem_iff (h : ({} : Given).Gathers os g) (o : Occurrence) : o ∈ os ↔ g.Holds o := by
  rw [h.holds]
  simp [not_holds_empty]

theorem Gathers.nil (g : Given) : g.Gathers [] g where
  fits := by simp
  holds := by simp

theorem Gathers.cons (h : g.Gains o g') (h' : g'.Gathers os g'') : g.Gathers (o :: os) g'' where
  fits := List.forall_mem_cons.mpr ⟨h.fits, h'.fits⟩
  holds o' := by rw [h'.holds, h.holds, List.mem_cons, or_assoc]

theorem of_put (h : g.put s value = .ok g') :
    (Piece.setting s value).Fits ∧ g'.content s = some value ∧
      (∀ s', s' ≠ s → g'.content s' = g.content s') ∧ g'.word = g.word ∧ g'.verbose = g.verbose := by
  unfold put at h
  cases s with
  | log | xpath | resource =>
    rw [bind_eq_ok] at h
    obtain ⟨text, htext, h⟩ := h
    rw [readText_eq_ok_iff] at htext
    subst htext
    cases h
    refine ⟨by simp [Piece.Fits], rfl, fun s' hs => ?_, rfl, rfl⟩
    cases s' <;> first | rfl | exact absurd rfl hs
  | bundle | apks | deviceSpec | outputDir =>
    rw [bind_eq_ok] at h
    obtain ⟨path, hpath, h⟩ := h
    obtain ⟨hne, rfl⟩ := readPath_eq_ok_iff.mp hpath
    cases h
    refine ⟨hne, rfl, fun s' hs => ?_, rfl, rfl⟩
    cases s' <;> first | rfl | exact absurd rfl hs
  | values =>
    rw [bind_eq_ok] at h
    obtain ⟨b, hb, h⟩ := h
    rw [readTruth_eq_ok_iff] at hb
    subst hb
    cases h
    refine ⟨fits_truth b, rfl, fun s' hs => ?_, rfl, rfl⟩
    cases s' <;> first | rfl | exact absurd rfl hs

theorem content_eq_none_of_has (h : g.has s = false) : g.content s = none := by
  cases s <;> simpa [has, content] using h

theorem of_add (h : g.add s value = .ok g') : g.has s = false ∧ g.put s value = .ok g' := by
  unfold add at h
  split_ifs at h with hhas
  exact ⟨Bool.not_eq_true _ ▸ hhas, h⟩

theorem gains_of_add (h : g.add s value = .ok g') : g.Gains (.piece (.setting s value)) g' := by
  obtain ⟨hhas, hput⟩ := of_add h
  obtain ⟨hfits, hsame, hother, hword, hverbose⟩ := of_put hput
  refine ⟨hfits, fun o => ?_⟩
  cases o with
  | piece p =>
    cases p with
    | setting s' value' =>
      by_cases hs : s' = s
      · subst hs
        simp [Holds, hsame, content_eq_none_of_has hhas, eq_comm]
      · simp [Holds, hother s' hs, hs]
    | word w => simp [Holds, hword]
  | verbose => simp [Holds, hverbose]

theorem word_of_add (h : g.add s value = .ok g') : g'.word = g.word :=
  (of_put (of_add h).2).2.2.2.1

theorem gains_word {text : String} (hnone : g.word = none) :
    g.Gains (.piece (.word (Bytes.ofText text))) { g with word := some text } where
  fits := by simp [Occurrence.Fits, Piece.Fits]
  holds o := by
    cases o with
    | piece p =>
      cases p with
      | setting s value => cases s <;> simp [Holds, content]
      | word w => simp [Holds, hnone, eq_comm]
    | verbose => simp [Holds]

theorem gains_verbose (g : Given) : g.Gains .verbose { g with verbose := true } where
  fits := trivial
  holds o := by
    cases o with
    | piece p =>
      cases p with
      | setting s value => cases s <;> simp [Holds, content]
      | word w => simp [Holds]
    | verbose => simp [Holds]

end Given

end BundleInspect.CommandLine
