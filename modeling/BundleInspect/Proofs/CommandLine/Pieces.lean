import BundleInspect.CommandLine.Given
import Mathlib.Data.List.Nodup
import Mathlib.Data.List.Perm.Basic

/-!
# What words say, piece by piece

A command line says of some settings that they have a value, and it may have a free word. What is
given is the same in whatever order the pieces come.
-/

namespace BundleInspect.CommandLine

inductive Piece where
  | setting (s : Setting) (value : Bytes)
  | word (w : Word)
  deriving DecidableEq

abbrev Slot :=
  Option Setting

namespace Piece

def slot : Piece → Slot
  | .setting s _ => some s
  | .word _ => none

/-- Paths are not empty, texts are UTF-8, and `--values` takes two words. -/
def Fits : Piece → Prop
  | .setting .bundle value | .setting .apks value | .setting .deviceSpec value
  | .setting .outputDir value => value ≠ []
  | .setting .log value | .setting .xpath value | .setting .resource value =>
    value.text?.isSome = true
  | .setting .values value => value = Bytes.ofText "true" ∨ value = Bytes.ofText "false"
  | .word w => w.text?.isSome = true

end Piece

namespace Given

/-- Takes a piece into account, whatever was given before. -/
def give (g : Given) : Piece → Given
  | .setting .log value => { g with log := value.text? }
  | .setting .bundle value => { g with bundle := some value }
  | .setting .xpath value => { g with xpath := value.text? }
  | .setting .resource value => { g with resource := value.text? }
  | .setting .values value => { g with values := some (value == Bytes.ofText "true") }
  | .setting .apks value => { g with apks := some value }
  | .setting .deviceSpec value => { g with deviceSpec := some value }
  | .setting .outputDir value => { g with outputDir := some value }
  | .word w => { g with word := w.text? }

def filled (g : Given) : Slot → Bool
  | some s => g.has s
  | none => g.word.isSome

theorem filled_empty (slot : Slot) : ({} : Given).filled slot = false := by
  cases slot with
  | none => rfl
  | some s => cases s <;> rfl

/-! ## Pieces that fit -/

theorem readText_eq_ok {value : Bytes} (h : value.text?.isSome = true) :
    ∃ text, value.text? = some text ∧ readText value = .ok text := by
  obtain ⟨text, htext⟩ := Option.isSome_iff_exists.mp h
  exact ⟨text, htext, by rw [readText, htext]⟩

theorem put_of_fits (g : Given) {s : Setting} {value : Bytes} (h : (Piece.setting s value).Fits) :
    g.put s value = .ok (g.give (.setting s value)) := by
  cases s with
  | bundle | apks | deviceSpec | outputDir =>
    simp only [Piece.Fits] at h
    simp only [put, readPath, h, ↓reduceIte]
    rfl
  | log | xpath | resource =>
    obtain ⟨text, htext, hread⟩ := readText_eq_ok h
    simp only [put, give, hread, htext]
    rfl
  | values =>
    rcases h with rfl | rfl
    · rfl
    · rfl

theorem add_of_fits (g : Given) {s : Setting} {value : Bytes} (h : (Piece.setting s value).Fits)
    (hnew : g.filled (some s) = false) : g.add s value = .ok (g.give (.setting s value)) := by
  have hhas : g.has s = false := hnew
  rw [add, hhas]
  exact put_of_fits g h

/-! ## The order of pieces -/

theorem filled_give (g : Given) {piece : Piece} {slot : Slot} (h : piece.slot ≠ slot) :
    (g.give piece).filled slot = g.filled slot := by
  cases piece with
  | setting s value =>
    cases slot with
    | none => cases s <;> rfl
    | some s' => cases s <;> cases s' <;> first | rfl | exact absurd rfl h
  | word w =>
    cases slot with
    | none => exact absurd rfl h
    | some s' => cases s' <;> rfl

theorem give_comm (g : Given) {piece piece' : Piece} (h : piece.slot ≠ piece'.slot) :
    (g.give piece).give piece' = (g.give piece').give piece := by
  cases piece with
  | setting s value =>
    cases piece' with
    | setting s' value' => cases s <;> cases s' <;> first | rfl | exact absurd rfl h
    | word w => cases s <;> rfl
  | word w =>
    cases piece' with
    | setting s' value' => cases s' <;> rfl
    | word w' => exact absurd rfl h

theorem foldl_give_perm {pieces pieces' : List Piece} (h : pieces.Perm pieces')
    (hnodup : (pieces.map Piece.slot).Nodup) (g : Given) :
    pieces.foldl give g = pieces'.foldl give g := by
  refine h.foldl_eq' (fun piece hpiece piece' hpiece' g => ?_) g
  by_cases hslot : piece.slot = piece'.slot
  · rw [List.inj_on_of_nodup_map hnodup hpiece hpiece' hslot]
  · exact give_comm g hslot

end Given
end BundleInspect.CommandLine
