/-!
# Digits

The values of digits up to sixteen.
-/

namespace BundleInspect.Text

def hexValue? (c : Char) : Option Nat :=
  if '0' ≤ c && c ≤ '9' then some (c.toNat - 48)
  else if 'a' ≤ c && c ≤ 'f' then some (c.toNat - 87)
  else if 'A' ≤ c && c ≤ 'F' then some (c.toNat - 55)
  else none

/-- The radix is at most sixteen. -/
def digitIn? (radix : Nat) (c : Char) : Option Nat :=
  (hexValue? c).filter (· < radix)

def digitsIn? (radix : Nat) : Nat → List Char → Option Nat
  | value, [] => some value
  | value, c :: cs => do digitsIn? radix (radix * value + (← digitIn? radix c)) cs

def valueIn? (radix : Nat) (digits : List Char) : Option Nat :=
  if digits = [] then none else digitsIn? radix 0 digits

theorem toNat_ofNat_of_valid {n : Nat} (h : n < 0xd800 ∨ 0xdfff < n ∧ n < 0x110000) :
    (Char.ofNat n).toNat = n := by
  rw [Char.ofNat, dif_pos h]
  rfl

theorem toNat_of_between {low high c : Char} (h : (decide (low ≤ c) && decide (c ≤ high)) = true) :
    low.toNat ≤ c.toNat ∧ c.toNat ≤ high.toNat := by
  simpa [Char.le_def, UInt32.le_iff_toNat_le] using h

theorem isDigit_iff {c : Char} : c.isDigit = true ↔ 48 ≤ c.toNat ∧ c.toNat ≤ 57 := by
  simp [Char.isDigit, UInt32.le_iff_toNat_le]

theorem hexValue?_eq_some {c : Char} {n : Nat} (h : hexValue? c = some n) :
    (c.isDigit = true ∧ n = c.toNat - 48) ∨
      (97 ≤ c.toNat ∧ c.toNat ≤ 102 ∧ n = c.toNat - 87) ∨
      (65 ≤ c.toNat ∧ c.toNat ≤ 70 ∧ n = c.toNat - 55) := by
  unfold hexValue? at h
  split at h
  case isTrue hc =>
    cases h
    exact .inl ⟨isDigit_iff.mpr (toNat_of_between hc), rfl⟩
  case isFalse =>
    split at h
    case isTrue hc =>
      cases h
      obtain ⟨hlow, hhigh⟩ := toNat_of_between hc
      exact .inr (.inl ⟨hlow, hhigh, rfl⟩)
    case isFalse =>
      split at h
      case isTrue hc =>
        cases h
        obtain ⟨hlow, hhigh⟩ := toNat_of_between hc
        exact .inr (.inr ⟨hlow, hhigh, rfl⟩)
      case isFalse => cases h

theorem hexValue?_of_isDigit {c : Char} (h : c.isDigit = true) :
    hexValue? c = some (c.toNat - 48) := by
  have hc : (decide ('0' ≤ c) && decide (c ≤ '9')) = true := by
    simpa [Char.isDigit, Char.le_def] using h
  unfold hexValue?
  rw [if_pos hc]

theorem hexValue?_lt {c : Char} {n : Nat} (h : hexValue? c = some n) : n < 16 := by
  rcases hexValue?_eq_some h with ⟨hdigit, hn⟩ | hsmall | hlarge
  · have := isDigit_iff.mp hdigit
    omega
  · omega
  · omega

theorem digitIn?_ten (c : Char) :
    digitIn? 10 c = if c.isDigit then some (c.toNat - 48) else none := by
  unfold digitIn?
  split
  case isTrue h =>
    have hlt : c.toNat - 48 < 10 := by
      have := isDigit_iff.mp h
      omega
    simp [hexValue?_of_isDigit h, hlt]
  case isFalse h =>
    -- Digits that are letters have values from ten on.
    rw [Option.filter_eq_none_iff]
    intro n hn
    rcases hexValue?_eq_some hn with ⟨hdigit, -⟩ | hsmall | hlarge
    · exact absurd hdigit h
    · simp only [decide_eq_true_eq]
      omega
    · simp only [decide_eq_true_eq]
      omega

theorem digitIn?_sixteen (c : Char) : digitIn? 16 c = hexValue? c := by
  unfold digitIn?
  cases h : hexValue? c with
  | none => rfl
  | some n => simp [hexValue?_lt h]

theorem isSome_hexValue?_of_digitsIn? {radix value n : Nat} {cs : List Char}
    (h : digitsIn? radix value cs = some n) : ∀ c ∈ cs, (hexValue? c).isSome := by
  induction cs generalizing value with
  | nil => simp
  | cons c cs ih =>
    simp only [digitsIn?, Option.bind_eq_bind, Option.bind_eq_some_iff] at h
    obtain ⟨d, hd, hcs⟩ := h
    intro c' hc'
    rcases List.mem_cons.mp hc' with rfl | hc'
    · obtain ⟨hd, -⟩ := Option.filter_eq_some_iff.mp hd
      rw [hd]
      rfl
    · exact ih hcs c' hc'

end BundleInspect.Text
