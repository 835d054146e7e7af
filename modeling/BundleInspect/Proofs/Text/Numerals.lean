import BundleInspect.Text.Digit
import Mathlib.Data.List.Forall2
import Mathlib.Data.Nat.Digits.Defs

/-!
# Numerals

Which characters are digits of a radix, and the number that digits make up. `valueIn?_eq_some_iff`:
the reader of digits gives that number, for digits of the radix and for nothing else.
-/

namespace BundleInspect.Text

/-- Letters count in either case; there are no digits outside ASCII. -/
def digitTable : List (Char × Nat) :=
  [('0', 0), ('1', 1), ('2', 2), ('3', 3), ('4', 4), ('5', 5), ('6', 6), ('7', 7), ('8', 8),
    ('9', 9), ('a', 10), ('b', 11), ('c', 12), ('d', 13), ('e', 14), ('f', 15), ('A', 10),
    ('B', 11), ('C', 12), ('D', 13), ('E', 14), ('F', 15)]

def IsDigit (radix : Nat) (c : Char) (d : Nat) : Prop :=
  (c, d) ∈ digitTable ∧ d < radix

/-- The last of the digits counts once. -/
def Numeral (radix : Nat) (cs : List Char) (n : Nat) : Prop :=
  cs ≠ [] ∧ ∃ ds, List.Forall₂ (IsDigit radix) cs ds ∧ n = Nat.ofDigits radix ds.reverse

/-! ## Digits -/

theorem hexValue?_eq_some_iff {c : Char} {d : Nat} :
    hexValue? c = some d ↔ (c, d) ∈ digitTable := by
  constructor
  · intro h
    have hall : ∀ n < 128, ∀ d ∈ hexValue? (Char.ofNat n), (Char.ofNat n, d) ∈ digitTable := by
      decide
    have hc : c.toNat < 128 := by
      rcases hexValue?_eq_some h with ⟨hdigit, -⟩ | hsmall | hlarge
      · have := isDigit_iff.mp hdigit
        omega
      · omega
      · omega
    have hmem := hall c.toNat hc
    rw [Char.ofNat_toNat] at hmem
    exact hmem d h
  · have hall : ∀ p ∈ digitTable, hexValue? p.1 = some p.2 := by
      decide
    exact hall (c, d)

theorem digitIn?_eq_some_iff {radix : Nat} {c : Char} {d : Nat} :
    digitIn? radix c = some d ↔ IsDigit radix c d := by
  rw [digitIn?, Option.filter_eq_some_iff, hexValue?_eq_some_iff, decide_eq_true_iff]
  rfl

theorem isDigit_digitChar {radix d : Nat} (h : d < radix) (hradix : radix ≤ 16) :
    IsDigit radix (Nat.digitChar d) d := by
  have hall : ∀ d < 16, (Nat.digitChar d, d) ∈ digitTable := by
    decide
  exact ⟨hall d (by omega), h⟩

/-! ## Numbers -/

theorem digitsIn?_eq_some_iff {radix value n : Nat} {cs : List Char} :
    digitsIn? radix value cs = some n ↔
      ∃ ds, List.Forall₂ (IsDigit radix) cs ds ∧
        n = radix ^ ds.length * value + Nat.ofDigits radix ds.reverse := by
  induction cs generalizing value with
  | nil =>
    simp only [digitsIn?, Option.some.injEq, List.forall₂_nil_left_iff, exists_eq_left]
    simp [eq_comm]
  | cons c cs ih =>
    have hshift (d : Nat) (ds : List Nat) :
        radix ^ (d :: ds).length * value + Nat.ofDigits radix (d :: ds).reverse =
          radix ^ ds.length * (radix * value + d) + Nat.ofDigits radix ds.reverse := by
      rw [Nat.ofDigits_reverse_cons, List.length_cons]
      ring
    simp only [digitsIn?, Option.bind_eq_bind, Option.bind_eq_some_iff, digitIn?_eq_some_iff, ih]
    constructor
    · rintro ⟨d, hd, ds, hds, rfl⟩
      exact ⟨d :: ds, .cons hd hds, (hshift d ds).symm⟩
    · rintro ⟨_, hall, rfl⟩
      cases hall with
      | cons hd hds => exact ⟨_, hd, _, hds, hshift _ _⟩

theorem valueIn?_eq_some_iff {radix n : Nat} {cs : List Char} :
    valueIn? radix cs = some n ↔ Numeral radix cs n := by
  unfold valueIn? Numeral
  split
  case isTrue h => simp [h]
  case isFalse h =>
    rw [digitsIn?_eq_some_iff]
    simp [h]

theorem Numeral.zero_cons {radix n : Nat} {cs : List Char} (hradix : 0 < radix)
    (h : Numeral radix cs n) : Numeral radix ('0' :: cs) n := by
  obtain ⟨-, ds, hds, rfl⟩ := h
  refine ⟨List.cons_ne_nil _ _, 0 :: ds, .cons ⟨by decide, hradix⟩ hds, ?_⟩
  rw [Nat.ofDigits_reverse_zero_cons]

theorem Numeral.concat {radix n d : Nat} {cs : List Char} {c : Char} (h : Numeral radix cs n)
    (hd : IsDigit radix c d) : Numeral radix (cs ++ [c]) (radix * n + d) := by
  obtain ⟨-, ds, hds, rfl⟩ := h
  refine ⟨by simp, ds ++ [d], List.rel_append hds (.cons hd .nil), ?_⟩
  rw [List.reverse_append, List.reverse_singleton, List.singleton_append, Nat.ofDigits_cons]
  ring

theorem numeral_toDigits {radix : Nat} (hradix : 1 < radix) (hle : radix ≤ 16) (n : Nat) :
    Numeral radix (Nat.toDigits radix n) n := by
  induction n using Nat.strongRecOn with
  | _ n ih =>
    by_cases hn : n < radix
    · rw [Nat.toDigits_of_lt_base hn]
      exact ⟨List.cons_ne_nil _ _, [n], .cons (isDigit_digitChar hn hle) .nil, by simp⟩
    · have hlt : n % radix < radix := Nat.mod_lt n (by omega)
      have hn' := ih (n / radix) (Nat.div_lt_self (by omega) hradix)
      have hconcat := hn'.concat (isDigit_digitChar hlt hle)
      rw [Nat.div_add_mod] at hconcat
      rw [Nat.toDigits_of_base_le hradix (by omega)]
      exact hconcat

theorem toDigits_of_zero_head {n : Nat} (h : (Nat.toDigits 10 n).head? = some '0') : n = 0 := by
  induction n using Nat.strongRecOn with
  | _ n ih =>
    by_cases hn : n < 10
    · rw [Nat.toDigits_of_lt_base hn] at h
      have hall : ∀ m < 10, [Nat.digitChar m].head? = some '0' → m = 0 := by
        decide
      exact hall n hn h
    · rw [Nat.toDigits_of_base_le (by decide) (by omega),
        List.head?_append_of_ne_nil _ Nat.toDigits_ne_nil] at h
      have := ih (n / 10) (by omega) h
      omega

theorem eq_digitChar_of_mem_toDigits {radix n : Nat} (hradix : 1 < radix) {c : Char}
    (h : c ∈ Nat.toDigits radix n) : ∃ d < radix, c = Nat.digitChar d := by
  induction n using Nat.strongRecOn with
  | _ n ih =>
    by_cases hn : n < radix
    · rw [Nat.toDigits_of_lt_base hn, List.mem_singleton] at h
      exact ⟨n, hn, h⟩
    · rw [Nat.toDigits_of_base_le hradix (by omega), List.mem_append, List.mem_singleton] at h
      rcases h with h | rfl
      · exact ih (n / radix) (Nat.div_lt_self (by omega) hradix) h
      · exact ⟨n % radix, Nat.mod_lt n (by omega), rfl⟩

end BundleInspect.Text
