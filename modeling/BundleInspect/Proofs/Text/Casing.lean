import BundleInspect.Text.Digit
import BundleInspect.Text.Lowercase
import Mathlib.Tactic.ByContra

/-!
# Lower case and ASCII

Lower-casing ASCII text folds its capitals and nothing else. Of the characters beyond ASCII some have
an ASCII letter as their lower-case form, but it is always a k: text that is lower-cased to ASCII
without a k was ASCII before.
-/

namespace BundleInspect.Text

/-- ASCII characters other than k, the only letter that lower-casing finds outside of ASCII. -/
def Plain (c : Char) : Prop :=
  c.toNat < 128 ∧ c ≠ 'k'

/-! ## One character -/

/-- The kelvin sign alone leads from beyond ASCII into it. -/
theorem capitalRuns_cases : ∀ r ∈ capitalRuns,
    (r.first = 0x41 ∧ r.last = 0x5a) ∨
    (r.first = 0x212a ∧ r.last = 0x212a ∧ r.shift = -8383) ∨
    (128 ≤ r.first ∧ 128 ≤ r.first + r.shift ∧
      (r.last + r.shift < 0xd800 ∨ 0xdfff < r.first + r.shift ∧ r.last + r.shift < 0x110000)) := by
  decide +kernel

theorem of_covers {r : CapitalRun} {n : Nat} (h : r.covers n = true) :
    r.first ≤ n ∧ n ≤ r.last := by
  simp only [CapitalRun.covers, Bool.and_eq_true, decide_eq_true_eq] at h
  exact h.1

theorem toLower_cases (c : Char) :
    (0x41 ≤ c.toNat ∧ c.toNat ≤ 0x5a) ∨
      (¬ (0x41 ≤ c.toNat ∧ c.toNat ≤ 0x5a) ∧ c.toLower = c) := by
  by_cases hupper : 0x41 ≤ c.toNat ∧ c.toNat ≤ 0x5a
  · exact .inl hupper
  · refine .inr ⟨hupper, dif_neg ?_⟩
    simp only [ge_iff_le, UInt32.le_iff_toNat_le]
    exact hupper

theorem lowerChar_of_ascii {c : Char} (h : c.toNat < 128) : lowerChar c = [c.toLower] := by
  rcases toLower_cases c with hupper | ⟨hupper, hsame⟩
  · have hall : ∀ k < 26, lowerChar (Char.ofNat (0x41 + k)) =
        [(Char.ofNat (0x41 + k)).toLower] := by
      decide
    have hc := hall (c.toNat - 0x41) (by omega)
    rwa [Nat.add_sub_of_le hupper.1, Char.ofNat_toNat] at hc
  · have hdot : c.toNat ≠ 0x130 := by omega
    have hnone : capitalRuns.find? (·.covers c.toNat) = none := by
      rw [List.find?_eq_none]
      intro r hr hcovers
      have hrange := of_covers hcovers
      have := capitalRuns_cases r hr
      omega
    rw [lowerChar, if_neg hdot, hnone, hsame]

theorem not_plain_of_covers {r : CapitalRun} {n : Nat} (hr : r ∈ capitalRuns)
    (hcovers : r.covers n = true) (hn : 128 ≤ n) : ¬ Plain (Char.ofNat (n + r.shift).toNat) := by
  obtain ⟨hfirst, hlast⟩ := of_covers hcovers
  rintro ⟨hascii, hk⟩
  rcases capitalRuns_cases r hr with ⟨-, hend⟩ | ⟨hsign, hsign', hshift⟩ | ⟨-, hbeyond, hvalid⟩
  · omega
  · have hkelvin : n = 0x212a := by omega
    subst hkelvin
    rw [hshift] at hk
    exact hk rfl
  · rw [toNat_ofNat_of_valid (by omega)] at hascii
    omega

theorem toNat_lt_of_lowerChar {c : Char} (h : ∀ d ∈ lowerChar c, Plain d) : c.toNat < 128 := by
  by_contra hwide
  rw [Nat.not_lt] at hwide
  unfold lowerChar at h
  split at h
  · have hdot := h '\u0307' (by simp)
    exact absurd hdot.1 (by decide)
  · split at h
    case h_1 r hr =>
      have hcovers := List.find?_some hr
      exact not_plain_of_covers (List.mem_of_find?_eq_some hr) hcovers hwide (h _ (by simp))
    case h_2 =>
      have hsame := h c (by simp)
      exact absurd hsame.1 (Nat.not_lt.mpr hwide)

theorem not_plain_lowerSigma (before after : List Char) : ¬ Plain (lowerSigma before after) := by
  unfold lowerSigma
  rintro ⟨hascii, -⟩
  revert hascii
  split <;> decide

/-! ## Texts -/

theorem lowerChars_of_ascii {cs : List Char} (h : ∀ c ∈ cs, c.toNat < 128) (before : List Char) :
    lowerChars before cs = cs.map Char.toLower := by
  induction cs generalizing before with
  | nil => rfl
  | cons c cs ih =>
    rw [List.forall_mem_cons] at h
    have hsigma : c ≠ 'Σ' := by
      rintro rfl
      exact absurd h.1 (by decide)
    rw [lowerChars, if_neg hsigma, lowerChar_of_ascii h.1, ih h.2]
    rfl

theorem ascii_of_lowerChars {cs before : List Char} (h : ∀ d ∈ lowerChars before cs, Plain d) :
    ∀ c ∈ cs, c.toNat < 128 := by
  induction cs generalizing before with
  | nil => simp
  | cons c cs ih =>
    rw [lowerChars, List.forall_mem_append] at h
    refine List.forall_mem_cons.mpr ⟨?_, ih h.2⟩
    by_cases hsigma : c = 'Σ'
    · rw [if_pos hsigma, List.forall_mem_singleton] at h
      exact absurd h.1 (not_plain_lowerSigma _ _)
    · rw [if_neg hsigma] at h
      exact toNat_lt_of_lowerChar h.1

theorem toNat_lt_of_toLower {c : Char} (h : c.toLower.toNat < 128) : c.toNat < 128 := by
  rcases toLower_cases c with hupper | ⟨-, hsame⟩
  · omega
  · rwa [hsame] at h

theorem ascii_of_plain {text plain : String} (hplain : ∀ d ∈ plain.toList, Plain d)
    (h : lower text = plain ∨ text.toLower = plain) : ∀ c ∈ text.toList, c.toNat < 128 := by
  rcases h with rfl | rfl
  · rw [lower, String.toList_ofList] at hplain
    exact ascii_of_lowerChars hplain
  · intro c hc
    change ∀ d ∈ (text.map Char.toLower).toList, Plain d at hplain
    rw [String.toList_map, List.forall_mem_map] at hplain
    exact toNat_lt_of_toLower (hplain c hc).1

theorem lower_eq_iff {text plain : String} (hplain : ∀ d ∈ plain.toList, Plain d) :
    lower text = plain ↔ text.toLower = plain := by
  have hsame (hascii : ∀ c ∈ text.toList, c.toNat < 128) : lower text = text.toLower := by
    rw [lower, lowerChars_of_ascii hascii, ← String.toList_map, String.ofList_toList]
    rfl
  constructor
  · intro h
    rw [← hsame (ascii_of_plain hplain (.inl h)), h]
  · intro h
    rw [hsame (ascii_of_plain hplain (.inr h)), h]

end BundleInspect.Text
