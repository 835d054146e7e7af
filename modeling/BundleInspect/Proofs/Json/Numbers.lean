import BundleInspect.Json.Reader
import BundleInspect.Proofs.Json.Grammar
import Mathlib.Data.List.TakeWhile

/-!
# Integers are read as the grammar says

`number_eq_integer` and `number_of_integral`: `number` gives an integer for the digits of one that
fits 64 bits and for nothing else. Everything with a fraction or an exponent is a double.
-/

namespace BundleInspect.Json

/-- No number goes on here. -/
def Ends (cs : List Char) : Prop :=
  ∀ c ∈ cs.head?, c.isDigit = false ∧ c ≠ '.' ∧ c ≠ 'e' ∧ c ≠ 'E'

theorem ends_nil : Ends [] :=
  nofun

/-! ## Digits -/

theorem digitIn?_eq_digitValue (c : Char) :
    Text.digitIn? 10 c = if c.isDigit then some (digitValue c) else none :=
  Text.digitIn?_ten c

theorem digitsIn?_le {value n : Nat} {cs : List Char} (h : Text.digitsIn? 10 value cs = some n) :
    value ≤ n := by
  induction cs generalizing value with
  | nil => simp [Text.digitsIn?] at h; omega
  | cons c cs ih =>
    simp only [Text.digitsIn?, Option.bind_eq_bind, Option.bind_eq_some_iff] at h
    obtain ⟨d, -, h⟩ := h
    have := ih h
    omega

theorem isDigit_of_digitsIn? {value n : Nat} {cs : List Char}
    (h : Text.digitsIn? 10 value cs = some n) : ∀ c ∈ cs, c.isDigit = true := by
  induction cs generalizing value with
  | nil => simp
  | cons c cs ih =>
    simp only [Text.digitsIn?, Option.bind_eq_bind, Option.bind_eq_some_iff,
      digitIn?_eq_digitValue] at h
    obtain ⟨d, hd, h⟩ := h
    simp only [Option.ite_none_right_eq_some] at hd
    exact List.forall_mem_cons.mpr ⟨hd.1, ih h⟩

theorem digit_of_valueIn? {cs : List Char} {n : Nat} (h : Text.valueIn? 10 cs = some n) :
    (∃ c ds, cs = c :: ds) ∧ ∀ c ∈ cs, c.isDigit = true := by
  unfold Text.valueIn? at h
  split at h
  case isTrue => cases h
  case isFalse hnil => exact ⟨List.exists_cons_of_ne_nil hnil, isDigit_of_digitsIn? h⟩

theorem absorb_of_digitsIn? {value n : Nat} {cs : List Char}
    (h : Text.digitsIn? 10 value cs = some n) (hn : n < 0x10000000000000000) :
    absorb value cs = (n, []) := by
  induction cs generalizing value with
  | nil => simp_all [Text.digitsIn?, absorb]
  | cons c cs ih =>
    simp only [Text.digitsIn?, Option.bind_eq_bind, Option.bind_eq_some_iff, digitIn?_eq_digitValue,
      Option.ite_none_right_eq_some] at h
    obtain ⟨d, ⟨-, hd⟩, h⟩ := h
    cases hd
    have := digitsIn?_le h
    rw [absorb, if_pos (by omega), ih h]

theorem digitsIn?_of_absorb {value n : Nat} {cs : List Char} (hall : ∀ c ∈ cs, c.isDigit = true)
    (h : absorb value cs = (n, [])) : Text.digitsIn? 10 value cs = some n := by
  induction cs generalizing value with
  | nil => simp_all [Text.digitsIn?, absorb]
  | cons c cs ih =>
    obtain ⟨hc, hcs⟩ := List.forall_mem_cons.mp hall
    rw [absorb] at h
    split at h
    · simp [Text.digitsIn?, digitIn?_eq_digitValue, hc, ih hcs h]
    · cases h

theorem takeWhile_digits {cs rest : List Char} (hcs : ∀ c ∈ cs, c.isDigit = true) (h : Ends rest) :
    (cs ++ rest).takeWhile Char.isDigit = cs ∧ (cs ++ rest).dropWhile Char.isDigit = rest := by
  rw [List.takeWhile_append_of_pos hcs, List.dropWhile_append_of_pos hcs]
  cases rest with
  | nil => simp
  | cons c rest => simp [(h c rfl).1]

/-! ## Doubles -/

theorem real_eq_ok {negative : Bool} {significand : Nat} {e : Int} {rest rest' : List Char}
    {n : Number} (h : real negative significand e rest = .ok (n, rest')) : ∃ x, n = .real x := by
  unfold real at h
  split at h
  · cases h
    exact ⟨_, rfl⟩
  · cases h

theorem exponent_eq_ok {negative : Bool} {significand : Nat} {start : Int} {cs rest : List Char}
    {n : Number} (h : exponent negative significand start cs = .ok (n, rest)) :
    ∃ x, n = .real x := by
  unfold exponent at h
  dsimp only at h
  split at h
  · cases h
  · split at h
    · split at h
      · exact real_eq_ok h
      · split at h
        · exact real_eq_ok h
        · cases h
    · cases h

theorem fraction_eq_ok {negative : Bool} {significand : Nat} {start : Int} {cs rest : List Char}
    {n : Number} (h : fraction negative significand start cs = .ok (n, rest)) :
    ∃ x, n = .real x := by
  unfold fraction at h
  split at h
  · cases h
  · split at h
    · dsimp only [afterFraction] at h
      split at h
      · exact exponent_eq_ok h
      · exact exponent_eq_ok h
      · exact real_eq_ok h
    · cases h

/-! ## Integers -/

theorem afterWhole_eq_integer {negative : Bool} {value : Nat} {left cs rest : List Char} {i : Int}
    (h : afterWhole negative value left cs = .ok (.integer i, rest)) :
    left = [] ∧ rest = cs ∧ whole negative value = .integer i := by
  unfold afterWhole at h
  split at h
  · obtain ⟨x, hx⟩ := fraction_eq_ok h
    cases hx
  · obtain ⟨x, hx⟩ := exponent_eq_ok h
    cases hx
  · obtain ⟨x, hx⟩ := exponent_eq_ok h
    cases hx
  · split at h
    case isTrue hleft =>
      simp only [Except.ok.injEq, Prod.mk.injEq] at h
      exact ⟨hleft, h.2.symm, h.1⟩
    case isFalse =>
      obtain ⟨x, hx⟩ := real_eq_ok h
      cases hx

theorem afterWhole_of_ends {negative : Bool} {value : Nat} {cs : List Char} (h : Ends cs) :
    afterWhole negative value [] cs = .ok (whole negative value, cs) := by
  cases cs with
  | nil => rfl
  | cons c cs =>
    obtain ⟨-, hpoint, he, hE⟩ := h c rfl
    simp [afterWhole, hpoint, he, hE]

theorem magnitude_eq_integer {negative : Bool} {cs rest : List Char} {i : Int}
    (h : magnitude negative cs = .ok (.integer i, rest)) :
    ∃ ds n, cs = ds ++ rest ∧ Decimal ds n ∧ whole negative n = .integer i := by
  unfold magnitude at h
  split at h
  case h_1 => cases h
  case h_2 cs =>
    have hzero : afterWhole negative 0 [] cs = .ok (.integer i, rest) := by
      split at h
      · split at h
        · cases h
        · exact h
      · exact h
    obtain ⟨-, rfl, hwhole⟩ := afterWhole_eq_integer hzero
    exact ⟨['0'], 0, rfl, ⟨by decide, fun _ => rfl⟩, hwhole⟩
  case h_3 c cs hc =>
    split at h
    case isTrue hdigit =>
      dsimp only at h
      obtain ⟨hleft, rfl, hwhole⟩ := afterWhole_eq_integer h
      have hvalue := digitsIn?_of_absorb (fun _ => List.mem_takeWhile_imp) (Prod.ext rfl hleft)
      refine ⟨(c :: cs).takeWhile Char.isDigit, _, List.takeWhile_append_dropWhile.symm, ⟨?_, ?_⟩,
        hwhole⟩
      · rw [Text.valueIn?, if_neg (by simp [hdigit]), hvalue]
      · intro hzero
        simp only [List.takeWhile_cons, hdigit, if_true, List.head?_cons, Option.some.injEq]
          at hzero
        exact absurd hzero hc
    case isFalse => cases h

theorem decimal_starts {ds : List Char} {n : Nat} (h : Decimal ds n) :
    ∃ c cs, ds = c :: cs ∧ c.isDigit = true := by
  obtain ⟨⟨c, cs, rfl⟩, hdigit⟩ := digit_of_valueIn? h.1
  exact ⟨c, cs, rfl, hdigit c List.mem_cons_self⟩

theorem magnitude_of_decimal {negative : Bool} {ds rest : List Char} {n : Nat} (h : Decimal ds n)
    (hn : n < 0x10000000000000000) (hrest : Ends rest) :
    magnitude negative (ds ++ rest) = .ok (whole negative n, rest) := by
  obtain ⟨c, cs, rfl, hdigit⟩ := decimal_starts h
  obtain ⟨hvalue, hzero⟩ := h
  rw [Text.valueIn?, if_neg (List.cons_ne_nil c cs)] at hvalue
  by_cases hc : c = '0'
  · subst hc
    obtain rfl : cs = [] := by simpa using hzero rfl
    obtain rfl : n = 0 := by
      simpa [Text.digitsIn?, digitIn?_eq_digitValue, digitValue] using hvalue.symm
    cases rest with
    | nil => exact afterWhole_of_ends hrest
    | cons c rest => simp [magnitude, (hrest c rfl).1, afterWhole_of_ends hrest]
  · obtain ⟨htake, hdrop⟩ := takeWhile_digits (isDigit_of_digitsIn? hvalue) hrest
    have habsorb := absorb_of_digitsIn? hvalue hn
    rw [List.cons_append] at htake hdrop ⊢
    unfold magnitude
    simp only [htake, hdrop, habsorb, hdigit, if_true]
    exact afterWhole_of_ends hrest

theorem number_eq_integer {cs rest : List Char} {i : Int}
    (h : number cs = .ok (.integer i, rest)) : ∃ v, cs = v ++ rest ∧ Integral v i := by
  unfold number at h
  split at h
  case h_1 cs =>
    obtain ⟨ds, n, rfl, hds, hwhole⟩ := magnitude_eq_integer h
    simp only [whole, if_true] at hwhole
    split at hwhole
    case isTrue => cases hwhole
    case isFalse hn =>
      cases hwhole
      exact ⟨'-' :: ds, rfl, .negative ds n hds (by omega)⟩
  case h_2 cs _ =>
    obtain ⟨ds, n, rfl, hds, hwhole⟩ := magnitude_eq_integer h
    cases hwhole
    exact ⟨ds, rfl, .natural ds n hds⟩

theorem number_of_integral {v rest : List Char} {i : Int} (h : Integral v i)
    (hlow : -0x8000000000000000 ≤ i) (hhigh : i < 0x10000000000000000) (hrest : Ends rest) :
    number (v ++ rest) = .ok (.integer i, rest) := by
  cases h with
  | natural _ n hn =>
    have hmagnitude : magnitude false (v ++ rest) = _ := magnitude_of_decimal hn (by omega) hrest
    obtain ⟨c, cs, rfl, hdigit⟩ := decimal_starts hn
    rw [List.cons_append] at hmagnitude ⊢
    unfold number
    split
    case h_1 heq =>
      cases heq
      cases hdigit
    case h_2 => exact hmagnitude
  | negative ds n hn hzero =>
    rw [List.cons_append, number, magnitude_of_decimal hn (by omega) hrest]
    have hfits : ¬ (n = 0 ∨ 0x8000000000000000 < n) := by omega
    rw [whole, if_pos rfl, if_neg hfits]

end BundleInspect.Json
