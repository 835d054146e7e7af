import BundleInspect.Text.Digit

/-!
# Integer literals

An integer of 64 bits, written with an optional sign in one of three radices: `0x`, `0X` or `#`
before hexadecimal digits, `0` before octal digits, decimal digits otherwise.
-/

namespace BundleInspect.Resource

def splitSign : List Char → Bool × List Char
  | '-' :: cs => (true, cs)
  | '+' :: cs => (false, cs)
  | cs => (false, cs)

/-- A lone zero is decimal. -/
def splitRadix : List Char → Nat × List Char
  | '0' :: 'x' :: cs => (16, cs)
  | '0' :: 'X' :: cs => (16, cs)
  | '#' :: cs => (16, cs)
  | '0' :: c :: cs => (8, c :: cs)
  | cs => (10, cs)

def fits64 (value : Int) : Bool :=
  -0x8000000000000000 ≤ value && value < 0x8000000000000000

def literal? (raw : String) : Option Int := do
  let (negative, cs) := splitSign raw.toList
  let (radix, digits) := splitRadix cs
  let magnitude ← Text.valueIn? radix digits
  let value : Int := if negative then -(magnitude : Int) else magnitude
  if fits64 value then some value else none

theorem fits64_of_literal? {raw : String} {v : Int} (h : literal? raw = some v) :
    fits64 v = true := by
  simp only [literal?, Option.bind_eq_bind, Option.bind_eq_some_iff] at h
  obtain ⟨magnitude, -, h⟩ := h
  simp only [Option.ite_none_right_eq_some, Option.some.injEq] at h
  exact h.2 ▸ h.1

/-! ## Slashes -/

theorem slash_mem_splitSign {cs : List Char} (h : '/' ∈ cs) : '/' ∈ (splitSign cs).2 := by
  unfold splitSign
  split <;> simp_all

theorem slash_mem_splitRadix {cs : List Char} (h : '/' ∈ cs) : '/' ∈ (splitRadix cs).2 := by
  unfold splitRadix
  split <;> simp_all

theorem slash_notMem_of_literal? {raw : String} {v : Int} (h : literal? raw = some v) :
    '/' ∉ raw.toList := by
  intro hslash
  simp only [literal?, Option.bind_eq_bind, Option.bind_eq_some_iff] at h
  obtain ⟨magnitude, hdigits, -⟩ := h
  unfold Text.valueIn? at hdigits
  split at hdigits
  · cases hdigits
  · have hmem := slash_mem_splitRadix (slash_mem_splitSign hslash)
    have := Text.isSome_hexValue?_of_digitsIn? hdigits '/' hmem
    exact absurd this (by decide)

end BundleInspect.Resource
