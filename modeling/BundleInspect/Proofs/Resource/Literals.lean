import BundleInspect.Proofs.Text.Cuts
import BundleInspect.Proofs.Text.Numerals
import BundleInspect.Resource.Literal

/-!
# Integer literals are read as the grammar says

`literal?_exact`: a text is read as an integer if and only if it is a literal whose value fits 64
bits. On the way its bytes are cut behind the sign and behind the radix, always between characters.
-/

namespace BundleInspect.Resource

open Text

/-! ## The grammar -/

def hexMarks : List (List Char) :=
  [['0', 'x'], ['0', 'X'], ['#']]

/-- Zeros in front make a literal octal. -/
inductive Unsigned : List Char → Nat → Prop where
  | hexadecimal (mark ds : List Char) (n : Nat) :
    mark ∈ hexMarks → Numeral 16 ds n → Unsigned (mark ++ ds) n
  | octal (ds : List Char) (n : Nat) : Numeral 8 ds n → Unsigned ('0' :: ds) n
  | decimal (ds : List Char) (n : Nat) :
    Numeral 10 ds n → ds.length = 1 ∨ ds.head? ≠ some '0' → Unsigned ds n

inductive Literal : List Char → Int → Prop where
  | plain (cs : List Char) (n : Nat) : Unsigned cs n → Literal cs n
  | plus (cs : List Char) (n : Nat) : Unsigned cs n → Literal ('+' :: cs) n
  | minus (cs : List Char) (n : Nat) : Unsigned cs n → Literal ('-' :: cs) (-n)

/-! ## Radices -/

theorem ne_of_isDigit {radix d : Nat} {c other : Char} (h : IsDigit radix c d)
    (hother : ∀ p ∈ digitTable, p.1 = other → radix ≤ p.2) : c ≠ other := by
  rintro rfl
  exact absurd (hother _ h.1 rfl) (Nat.not_le_of_lt h.2)

theorem Numeral.exists_digit {radix n : Nat} {cs : List Char} (h : Numeral radix cs n) :
    ∃ c more d, cs = c :: more ∧ IsDigit radix c d := by
  obtain ⟨hne, ds, hds, -⟩ := h
  cases hds with
  | nil => exact absurd rfl hne
  | cons hd _ => exact ⟨_, _, _, rfl, hd⟩

theorem splitRadix_octal {c : Char} (hx : c ≠ 'x') (hX : c ≠ 'X') (cs : List Char) :
    splitRadix ('0' :: c :: cs) = (8, c :: cs) := by
  unfold splitRadix
  split <;> simp_all

theorem splitRadix_decimal {c : Char} (hmark : c ≠ '#') {cs : List Char}
    (hzero : c ≠ '0' ∨ cs = []) : splitRadix (c :: cs) = (10, c :: cs) := by
  unfold splitRadix
  split <;> simp_all

theorem unsigned_of_splitRadix {cs : List Char} {n : Nat}
    (h : Numeral (splitRadix cs).1 (splitRadix cs).2 n) : Unsigned cs n := by
  unfold splitRadix at h
  split at h
  case h_1 ds => exact .hexadecimal ['0', 'x'] ds n (by decide) h
  case h_2 ds => exact .hexadecimal ['0', 'X'] ds n (by decide) h
  case h_3 ds => exact .hexadecimal ['#'] ds n (by decide) h
  case h_4 c ds _ _ => exact .octal (c :: ds) n h
  case h_5 hx hX hmark hzero =>
    refine .decimal cs n h ?_
    obtain ⟨c, more, -, rfl, -⟩ := Numeral.exists_digit h
    cases more with
    | nil => exact .inl rfl
    | cons c' more =>
      refine .inr ?_
      rintro ⟨⟩
      exact hzero _ _ rfl

theorem splitRadix_of_unsigned {cs : List Char} {n : Nat} (h : Unsigned cs n) :
    Numeral (splitRadix cs).1 (splitRadix cs).2 n := by
  cases h with
  | hexadecimal mark ds _ hmark hds =>
    simp only [hexMarks, List.mem_cons, List.not_mem_nil, or_false] at hmark
    rcases hmark with rfl | rfl | rfl <;> exact hds
  | octal ds _ hds =>
    obtain ⟨c, more, d, rfl, hd⟩ := Numeral.exists_digit hds
    rw [splitRadix_octal (ne_of_isDigit hd (by decide)) (ne_of_isDigit hd (by decide))]
    exact hds
  | decimal _ _ hds hzero =>
    obtain ⟨c, more, d, rfl, hd⟩ := Numeral.exists_digit hds
    rw [splitRadix_decimal (ne_of_isDigit hd (by decide)) (by simpa [or_comm] using hzero)]
    exact hds

theorem splitRadix_iff {cs : List Char} {n : Nat} :
    Numeral (splitRadix cs).1 (splitRadix cs).2 n ↔ Unsigned cs n :=
  ⟨unsigned_of_splitRadix, splitRadix_of_unsigned⟩

/-! ## Signs -/

theorem Unsigned.head?_ne {cs : List Char} {n : Nat} (h : Unsigned cs n) :
    cs.head? ≠ some '-' ∧ cs.head? ≠ some '+' := by
  cases h with
  | hexadecimal mark ds _ hmark _ =>
    simp only [hexMarks, List.mem_cons, List.not_mem_nil, or_false] at hmark
    rcases hmark with rfl | rfl | rfl <;> simp
  | octal ds _ _ => simp
  | decimal _ _ hds _ =>
    obtain ⟨c, more, d, rfl, hd⟩ := Numeral.exists_digit hds
    have hminus : c ≠ '-' := ne_of_isDigit hd (by decide)
    have hplus : c ≠ '+' := ne_of_isDigit hd (by decide)
    simp [hminus, hplus]

theorem splitSign_of_head {cs : List Char} (hminus : cs.head? ≠ some '-')
    (hplus : cs.head? ≠ some '+') : splitSign cs = (false, cs) := by
  unfold splitSign
  split <;> simp_all

theorem literal_iff {cs : List Char} {v : Int} :
    Literal cs v ↔
      ∃ n : Nat, Unsigned (splitSign cs).2 n ∧ (if (splitSign cs).1 then -(n : Int) else n) = v := by
  constructor
  · intro h
    cases h with
    | plain _ n hn =>
      rw [splitSign_of_head hn.head?_ne.1 hn.head?_ne.2]
      exact ⟨n, hn, rfl⟩
    | plus cs n hn => exact ⟨n, hn, rfl⟩
    | minus cs n hn => exact ⟨n, hn, rfl⟩
  · rintro ⟨n, hn, rfl⟩
    unfold splitSign at hn ⊢
    split at hn
    case h_1 cs => exact .minus cs n hn
    case h_2 cs => exact .plus cs n hn
    case h_3 => exact .plain cs n hn

theorem Literal.unique {cs : List Char} {v w : Int} (hv : Literal cs v) (hw : Literal cs w) :
    v = w := by
  obtain ⟨n, hn, rfl⟩ := literal_iff.mp hv
  obtain ⟨m, hm, rfl⟩ := literal_iff.mp hw
  have hnm : some n = some m := by
    rw [← valueIn?_eq_some_iff.mpr (splitRadix_iff.mpr hn),
      valueIn?_eq_some_iff.mpr (splitRadix_iff.mpr hm)]
  rw [Option.some.inj hnm]

theorem fits64_iff {v : Int} : fits64 v = true ↔ -2 ^ 63 ≤ v ∧ v ≤ 2 ^ 63 - 1 := by
  rw [fits64, Bool.and_eq_true, decide_eq_true_iff, decide_eq_true_iff]
  omega

theorem literal?_eq_some_iff {raw : String} {v : Int} :
    literal? raw = some v ↔ Literal raw.toList v ∧ -2 ^ 63 ≤ v ∧ v ≤ 2 ^ 63 - 1 := by
  rw [literal_iff, ← fits64_iff]
  simp only [literal?, Option.bind_eq_bind, Option.bind_eq_some_iff, valueIn?_eq_some_iff,
    splitRadix_iff, Option.ite_none_right_eq_some, Option.some.injEq]
  constructor
  · rintro ⟨n, hn, hfits, rfl⟩
    exact ⟨⟨n, hn, rfl⟩, hfits⟩
  · rintro ⟨⟨n, hn, rfl⟩, hfits⟩
    exact ⟨n, hn, hfits, rfl⟩

/-! ## Bytes -/

def signSize (bytes : Bytes) : Nat :=
  if [0x2d] <+: bytes ∨ [0x2b] <+: bytes then 1 else 0

def markSize (bytes : Bytes) : Nat :=
  if [0x30, 0x78] <+: bytes ∨ [0x30, 0x58] <+: bytes then 2
  else if [0x23] <+: bytes then 1
  else if 1 < bytes.length ∧ [0x30] <+: bytes then 1
  else 0

theorem signSize_eq (cs : List Char) :
    signSize (Bytes.ofText (String.ofList cs)) =
      if ['-'] <+: cs ∨ ['+'] <+: cs then 1 else 0 := by
  have hminus : [0x2d] <+: Bytes.ofText (String.ofList cs) ↔ ['-'] <+: cs :=
    asciiBytes_prefix_iff ['-'] cs (by simp)
  have hplus : [0x2b] <+: Bytes.ofText (String.ofList cs) ↔ ['+'] <+: cs :=
    asciiBytes_prefix_iff ['+'] cs (by simp)
  simp only [signSize, hminus, hplus]

theorem one_lt_length_ofText_iff {cs : List Char} :
    1 < (Bytes.ofText (String.ofList ('0' :: cs))).length ↔ cs ≠ [] := by
  have hbytes := ofText_append_ascii ['0'] cs (by simp)
  rw [List.singleton_append] at hbytes
  rw [hbytes, List.length_append, ← ofText_ne_nil_iff, ← List.length_pos_iff]
  simp [asciiBytes]

theorem markSize_eq (cs : List Char) :
    markSize (Bytes.ofText (String.ofList cs)) =
      if ['0', 'x'] <+: cs ∨ ['0', 'X'] <+: cs then 2
      else if ['#'] <+: cs then 1
      else if 1 < cs.length ∧ ['0'] <+: cs then 1
      else 0 := by
  have hx : [0x30, 0x78] <+: Bytes.ofText (String.ofList cs) ↔ ['0', 'x'] <+: cs :=
    asciiBytes_prefix_iff ['0', 'x'] cs (by simp)
  have hX : [0x30, 0x58] <+: Bytes.ofText (String.ofList cs) ↔ ['0', 'X'] <+: cs :=
    asciiBytes_prefix_iff ['0', 'X'] cs (by simp)
  have hhash : [0x23] <+: Bytes.ofText (String.ofList cs) ↔ ['#'] <+: cs :=
    asciiBytes_prefix_iff ['#'] cs (by simp)
  have hzero : [0x30] <+: Bytes.ofText (String.ofList cs) ↔ ['0'] <+: cs :=
    asciiBytes_prefix_iff ['0'] cs (by simp)
  have hlong : 1 < (Bytes.ofText (String.ofList cs)).length ∧ ['0'] <+: cs ↔
      1 < cs.length ∧ ['0'] <+: cs := by
    refine and_congr_left fun hprefix => ?_
    obtain ⟨more, rfl⟩ := hprefix
    rw [List.singleton_append, one_lt_length_ofText_iff, ← List.length_pos_iff]
    simp
  simp only [markSize, hx, hX, hhash, hzero, hlong]

theorem splitSign_cut (cs : List Char) :
    Cut cs (signSize (Bytes.ofText (String.ofList cs))) (splitSign cs).2 := by
  unfold splitSign
  split
  case h_1 cs =>
    rw [signSize_eq, if_pos (.inl (List.prefix_append ['-'] cs))]
    exact cut_ascii ['-'] cs (by simp)
  case h_2 cs =>
    rw [signSize_eq, if_pos (.inr (List.prefix_append ['+'] cs))]
    exact cut_ascii ['+'] cs (by simp)
  case h_3 hminus hplus =>
    have hnone : ¬ (['-'] <+: cs ∨ ['+'] <+: cs) := by
      rintro (⟨more, rfl⟩ | ⟨more, rfl⟩)
      · exact hminus _ rfl
      · exact hplus _ rfl
    rw [signSize_eq, if_neg hnone]
    exact cut_ascii [] cs (by simp)

theorem splitRadix_cut (cs : List Char) :
    Cut cs (markSize (Bytes.ofText (String.ofList cs))) (splitRadix cs).2 := by
  unfold splitRadix
  split
  case h_1 cs =>
    rw [markSize_eq, if_pos (.inl (List.prefix_append ['0', 'x'] cs))]
    exact cut_ascii ['0', 'x'] cs (by simp)
  case h_2 cs =>
    rw [markSize_eq, if_pos (.inr (List.prefix_append ['0', 'X'] cs))]
    exact cut_ascii ['0', 'X'] cs (by simp)
  case h_3 cs =>
    rw [markSize_eq, if_neg (by simp), if_pos (by simp)]
    exact cut_ascii ['#'] cs (by simp)
  case h_4 c cs hx hX =>
    have hmark : ¬ (['0', 'x'] <+: '0' :: c :: cs ∨ ['0', 'X'] <+: '0' :: c :: cs) := by
      simp_all [eq_comm]
    rw [markSize_eq, if_neg hmark, if_neg (by simp), if_pos (by simp)]
    exact cut_ascii ['0'] (c :: cs) (by simp)
  case h_5 hx hX hhash hzero =>
    have hmark : ¬ (['0', 'x'] <+: cs ∨ ['0', 'X'] <+: cs) := by
      rintro (⟨more, rfl⟩ | ⟨more, rfl⟩)
      · exact hx _ rfl
      · exact hX _ rfl
    have hsharp : ¬ ['#'] <+: cs := by
      rintro ⟨more, rfl⟩
      exact hhash _ rfl
    have hlong : ¬ (1 < cs.length ∧ ['0'] <+: cs) := by
      rintro ⟨hlength, more, rfl⟩
      cases more with
      | nil => simp at hlength
      | cons c more => exact hzero c more rfl
    rw [markSize_eq, if_neg hmark, if_neg hsharp, if_neg hlong]
    exact cut_ascii [] cs (by simp)

/-- Cutting off the parts of a literal by bytes never cuts a character. -/
theorem literal?_exact (raw : String) :
    (∀ v, literal? raw = some v ↔ Literal raw.toList v ∧ -2 ^ 63 ≤ v ∧ v ≤ 2 ^ 63 - 1) ∧
    (literal? raw = none ↔ ∀ v, Literal raw.toList v → ¬ (-2 ^ 63 ≤ v ∧ v ≤ 2 ^ 63 - 1)) ∧
    Cut raw.toList (signSize (Bytes.ofText raw)) (splitSign raw.toList).2 ∧
    Cut (splitSign raw.toList).2
      (markSize (Bytes.ofText (String.ofList (splitSign raw.toList).2)))
      (splitRadix (splitSign raw.toList).2).2 ∧
    (∀ least ∈ ["-9223372036854775808", "-0x8000000000000000", "-0X8000000000000000",
        "-#8000000000000000", "-01000000000000000000000"], literal? least = some (-2 ^ 63)) ∧
    (Literal raw.toList (2 ^ 63) → literal? raw = none) := by
  have hsign := splitSign_cut raw.toList
  rw [String.ofList_toList] at hsign
  refine ⟨fun v => literal?_eq_some_iff, ?_, hsign, splitRadix_cut _, by decide, ?_⟩
  · rw [Option.eq_none_iff_forall_ne_some]
    simp only [ne_eq, literal?_eq_some_iff, not_and]
  · intro hgreat
    rw [Option.eq_none_iff_forall_ne_some]
    intro v hv
    obtain ⟨hliteral, -, hle⟩ := literal?_eq_some_iff.mp hv
    rw [hliteral.unique hgreat] at hle
    omega

end BundleInspect.Resource
