import BundleInspect.Proofs.DeviceSpec.Places
import BundleInspect.Proofs.Text.Numerals

/-!
# The size of the memory

`decode_ram`: a document may give the size as a number or as a text, and means the same. Which
numbers and which texts these are.
-/

namespace BundleInspect.DeviceSpec

open Json

/-! ## Texts of numbers -/

/-- A plus sign may be written where there is no minus sign. -/
def signs (i : Int) : List (List Char) :=
  if i < 0 then [['-']] else [[], ['+']]

/-- The digits of a number after a sign and zeros, with blanks around them. -/
inductive Padded : List Char → Int → Prop where
  | mk (b sign b' : List Char) (zeros : Nat) (i : Int) :
    Blanks b → Blanks b' → sign ∈ signs i →
      Padded (b ++ (sign ++ (List.replicate zeros '0' ++ Nat.toDigits 10 i.natAbs)) ++ b') i

theorem numeral_replicate_zero {ds : List Char} {n : Nat} (h : Text.Numeral 10 ds n)
    (zeros : Nat) : Text.Numeral 10 (List.replicate zeros '0' ++ ds) n := by
  induction zeros with
  | zero => exact h
  | succ zeros ih =>
    rw [List.replicate_succ, List.cons_append]
    exact ih.zero_cons (by decide)

theorem signed_of_mem_signs {sign ds : List Char} {i : Int} (hsign : sign ∈ signs i)
    (hds : Text.valueIn? 10 ds = some i.natAbs) : Signed (sign ++ ds) i := by
  unfold signs at hsign
  split at hsign
  case isTrue hneg =>
    have hi : i = -(i.natAbs : Int) := by omega
    rw [List.mem_singleton.mp hsign, hi]
    exact .minus ds i.natAbs hds
  case isFalse hneg =>
    have hi : i = i.natAbs := by omega
    rw [hi]
    rcases List.mem_pair.mp hsign with rfl | rfl
    · exact .plain ds i.natAbs hds
    · exact .plus ds i.natAbs hds

theorem numeric_of_padded {cs : List Char} {i : Int} (h : Padded cs i) : Numeric cs i := by
  obtain ⟨b, sign, b', zeros, _, hb, hb', hsign⟩ := h
  have hdigits := Text.numeral_toDigits (by decide : 1 < 10) (by decide) i.natAbs
  have hvalue := Text.valueIn?_eq_some_iff.mpr (numeral_replicate_zero hdigits zeros)
  exact ⟨b, _, b', rfl, hb, hb', signed_of_mem_signs hsign hvalue⟩

/-! ## Tokens of numbers -/

def minus (negative : Bool) : List Char :=
  if negative then ['-'] else []

theorem decimal_unique {ds : List Char} {m n : Nat} (hm : Decimal ds m) (hn : Decimal ds n) :
    m = n := by
  have heq := hm.1
  rw [hn.1] at heq
  exact (Option.some.inj heq).symm

theorem eq_nil_of_isDigit {fraction exponent : List Char} (hfraction : Fraction fraction)
    (hexponent : Exponent exponent) (h : ∀ c ∈ fraction ++ exponent, c.isDigit = true) :
    fraction = [] ∧ exponent = [] := by
  obtain ⟨hf, he⟩ := List.forall_mem_append.mp h
  constructor
  · cases hfraction with
    | absent => rfl
    | digits ds => cases hf '.' List.mem_cons_self
  · cases hexponent with
    | absent => rfl
    | digits mark sign ds hmark =>
      have hdigit := he mark List.mem_cons_self
      rcases List.mem_pair.mp hmark with rfl | rfl <;> cases hdigit

section
variable {negative : Bool} {ds fraction exponent v : List Char} {m n : Nat} {i : Int}

theorem decimal_append_iff (hds : Decimal ds n) (hfraction : Fraction fraction)
    (hexponent : Exponent exponent) :
    Decimal (ds ++ (fraction ++ exponent)) m ↔ fraction = [] ∧ exponent = [] ∧ m = n := by
  constructor
  · intro hm
    have hdigits := (digit_of_valueIn? hm.1).2
    obtain ⟨rfl, rfl⟩ :=
      eq_nil_of_isDigit hfraction hexponent (List.forall_mem_append.mp hdigits).2
    rw [List.append_nil, List.append_nil] at hm
    exact ⟨rfl, rfl, decimal_unique hm hds⟩
  · rintro ⟨rfl, rfl, rfl⟩
    rw [List.append_nil, List.append_nil]
    exact hds

theorem integral_minus_iff (hv : ∃ c cs, v = c :: cs ∧ c.isDigit = true) :
    Integral (minus negative ++ v) i ↔
      ∃ n, Decimal v n ∧ (negative = true → n ≠ 0) ∧ i = withSign negative n := by
  cases negative with
  | true =>
    change Integral ('-' :: v) i ↔ _
    constructor
    · intro h
      cases h with
      | natural _ n hn => cases (digit_of_valueIn? hn.1).2 '-' List.mem_cons_self
      | negative _ n hn hzero => exact ⟨n, hn, fun _ => hzero, by simp [withSign]⟩
    · rintro ⟨n, hn, hzero, rfl⟩
      exact .negative v n hn (hzero rfl)
  | false =>
    change Integral v i ↔ _
    constructor
    · intro h
      cases h with
      | natural _ n hn => exact ⟨n, hn, by simp, by simp [withSign]⟩
      | negative ds n =>
        obtain ⟨c, cs, hcons, hc⟩ := hv
        obtain ⟨rfl, -⟩ := List.cons.inj hcons
        cases hc
    · rintro ⟨n, hn, -, rfl⟩
      exact .natural v n hn

theorem integral_iff (hds : Decimal ds n) (hfraction : Fraction fraction)
    (hexponent : Exponent exponent) :
    Integral (minus negative ++ ds ++ fraction ++ exponent) i ↔
      fraction = [] ∧ exponent = [] ∧ (negative = true → n ≠ 0) ∧ i = withSign negative n := by
  obtain ⟨c, cs, hcons, hc⟩ := decimal_starts hds
  have hv : ∃ c' cs', ds ++ (fraction ++ exponent) = c' :: cs' ∧ c'.isDigit = true :=
    ⟨c, cs ++ (fraction ++ exponent), by rw [hcons, List.cons_append], hc⟩
  rw [List.append_assoc, List.append_assoc, integral_minus_iff hv]
  constructor
  · rintro ⟨m, hm, hzero, rfl⟩
    obtain ⟨hf, he, rfl⟩ := (decimal_append_iff hds hfraction hexponent).mp hm
    exact ⟨hf, he, hzero, rfl⟩
  · rintro ⟨hf, he, hzero, hi⟩
    exact ⟨n, (decimal_append_iff hds hfraction hexponent).mpr ⟨hf, he, rfl⟩, hzero, hi⟩

theorem number_not_quoted (hds : Decimal ds n) (text : String) :
    ¬ Quoted (minus negative ++ ds ++ fraction ++ exponent) text := by
  intro h
  obtain ⟨c, cs, rfl, hc⟩ := decimal_starts hds
  cases negative with
  | true => cases h.head
  | false =>
    rw [show c = '"' from h.head] at hc
    cases hc

/-! ## Sizes -/

theorem size_number_iff (hds : Decimal ds n) (hfraction : Fraction fraction)
    (hexponent : Exponent exponent) (m : Int64) :
    Size (minus negative ++ ds ++ fraction ++ exponent) m ↔
      fraction = [] ∧ exponent = [] ∧ (negative = true → n ≠ 0) ∧
        m.toInt = withSign negative n := by
  rw [← integral_iff hds hfraction hexponent]
  constructor
  · intro h
    cases h with
    | number _ hm => exact hm
    | text text _ hquoted => exact absurd hquoted (number_not_quoted hds text)
  · exact .number _ m

end

theorem size_quoted_iff {q : List Char} {x : String} (h : Quoted q x) (n : Int64) :
    Size q n ↔ Numeric x.toList n.toInt := by
  constructor
  · intro hn
    cases hn with
    | number _ hq =>
      obtain ⟨c, cs, rfl, hc⟩ := integral_starts hq
      rw [h.head] at hc
      cases hc
    | text x' _ hx' hn =>
      rw [quoted_unique h hx']
      exact hn
  · exact .text q x n h

theorem says_size_iff {n : Int64} {t : Tree} :
    (Content.size n).Says t ↔ ∃ v, t = .token v ∧ Size v n := by
  constructor
  · intro h
    cases h with
    | token _ v hv => exact ⟨v, rfl, hv⟩
  · rintro ⟨v, rfl, hv⟩
    exact .token _ v hv

theorem notMem_wordTokens {c : Char} (h : startsNumber c = true ∨ c = '"') (cs : List Char) :
    c :: cs ∉ wordTokens := by
  intro hmem
  simp only [wordTokens, null, List.mem_cons, List.cons.injEq, List.not_mem_nil, or_false] at hmem
  rcases hmem with ⟨rfl, -⟩ | ⟨rfl, -⟩ | ⟨rfl, -⟩ <;> simp [startsNumber] at h

theorem token_of_size {v : List Char} {n : Int64} (h : Size v n) :
    v ∉ wordTokens ∧ (NumberToken v ∨ ∃ x, Quoted v x) := by
  cases h with
  | number _ hv =>
    refine ⟨?_, .inl (numberToken_of_integral hv)⟩
    obtain ⟨c, cs, rfl, hc⟩ := integral_starts hv
    exact notMem_wordTokens (.inl hc) cs
  | text x _ hv =>
    refine ⟨?_, .inr ⟨x, hv⟩⟩
    obtain ⟨body, rfl, -⟩ := hv
    exact notMem_wordTokens (.inr rfl) (body ++ ['"'])

/-! ## Documents -/

section
variable {p : Place .ram} {base text : String} {z t : Tree} {s s' : DeviceSpec}

theorem decode_ram_iff (hbase : TreeText base (p.fill z)) (hs : decode base = .ok s)
    (htext : TreeText text (p.fill t)) :
    decode text = .ok s' ↔ ∃ v n, t = .token v ∧ Size v n ∧ s' = { s with ram := n } := by
  rw [decode_fill_iff hbase hs htext]
  constructor
  · rintro ⟨hsaid, hput⟩
    obtain ⟨v, rfl, hv⟩ := says_size_iff.mp hsaid
    exact ⟨v, s'.ram, rfl, hv, hput.symm⟩
  · rintro ⟨v, n, rfl, hv, rfl⟩
    exact ⟨says_size_iff.mpr ⟨v, rfl, hv⟩, rfl⟩

theorem decode_of_size {v : List Char} {n : Int64} (hbase : TreeText base (p.fill z))
    (hs : decode base = .ok s) (hv : Size v n) (htext : TreeText text (p.fill (.token v))) :
    decode text = .ok { s with ram := n } :=
  (decode_ram_iff hbase hs htext).mpr ⟨v, n, rfl, hv, rfl⟩

theorem decode_quoted_iff {q : List Char} {x : String} (hbase : TreeText base (p.fill z))
    (hs : decode base = .ok s) (hq : Quoted q x) (htext : TreeText text (p.fill (.token q))) :
    decode text = .ok s' ↔
      ∃ i, InRange i ∧ Numeric x.toList i ∧ s' = { s with ram := Int64.ofInt i } := by
  rw [decode_ram_iff hbase hs htext]
  constructor
  · rintro ⟨_, n, ⟨⟩, hn, rfl⟩
    refine ⟨n.toInt, inRange_toInt n, (size_quoted_iff hq n).mp hn, ?_⟩
    rw [Int64.ofInt_toInt]
  · rintro ⟨i, hi, hx, rfl⟩
    refine ⟨q, Int64.ofInt i, rfl, (size_quoted_iff hq _).mpr ?_, rfl⟩
    rw [toInt_ofInt_of_inRange hi]
    exact hx

theorem decode_number_iff {negative : Bool} {ds fraction exponent : List Char} {n : Nat}
    (hbase : TreeText base (p.fill z)) (hs : decode base = .ok s) (hds : Decimal ds n)
    (hfraction : Fraction fraction) (hexponent : Exponent exponent)
    (htext : TreeText text (p.fill (.token (minus negative ++ ds ++ fraction ++ exponent)))) :
    decode text = .ok s' ↔
      fraction = [] ∧ exponent = [] ∧ (negative = true → n ≠ 0) ∧ InRange (withSign negative n) ∧
        s' = { s with ram := Int64.ofInt (withSign negative n) } := by
  have hsize (m : Int64) : Size (minus negative ++ ds ++ fraction ++ exponent) m ↔ _ :=
    size_number_iff hds hfraction hexponent m
  rw [decode_ram_iff hbase hs htext]
  constructor
  · rintro ⟨_, m, ⟨⟩, hm, rfl⟩
    obtain ⟨hf, he, hzero, hi⟩ := (hsize m).mp hm
    rw [← hi, Int64.ofInt_toInt]
    exact ⟨hf, he, hzero, inRange_toInt m, rfl⟩
  · rintro ⟨hf, he, hzero, hrange, rfl⟩
    have hi := toInt_ofInt_of_inRange hrange
    exact ⟨_, _, rfl, (hsize _).mpr ⟨hf, he, hzero, hi⟩, rfl⟩

theorem treeText_of_member {key v : List Char} {name : String} (hkey : Quoted key name)
    (hv : Token v) (h : text.toList = '\x7b' :: (key ++ ':' :: v) ++ ['\x7d']) :
    TreeText text (.object [(key, .token v)]) := by
  have hassigned : Assigned (':' :: v) v := ⟨[], [], rfl, spaces_nil, spaces_nil⟩
  have hmember : KeyValue (Levels 1) (key ++ ':' :: v) (key, .token v) :=
    ⟨':' :: v, v, rfl, stringToken_of_quoted hkey, hassigned, .token v hv⟩
  have hitems := Items.next true [] _ [] _ [] (.first [] spaces_nil) hmember
    (.done false [] spaces_nil)
  rw [List.nil_append, List.append_nil] at hitems
  exact ⟨[], _, [], by simpa using h, spaces_nil, spaces_nil, 2, .object _ _ hitems⟩

/-- Any number of 64 bits or any text of it, and nothing else. -/
theorem decode_ram (hbase : TreeText base (p.fill z)) (hs : decode base = .ok s) :
    (∀ (n : Int64) (q : List Char) (x text text' : String), Padded x.toList n.toInt → Quoted q x →
        TreeText text (p.fill (.token (printInteger n.toInt))) →
        TreeText text' (p.fill (.token q)) →
        decode text = .ok { s with ram := n } ∧ decode text' = .ok { s with ram := n }) ∧
      (∀ q x text s', Quoted q x → TreeText text (p.fill (.token q)) →
        (decode text = .ok s' ↔
          ∃ i, InRange i ∧ Numeric x.toList i ∧ s' = { s with ram := Int64.ofInt i })) ∧
      (∀ negative ds fraction exponent n text s', Decimal ds n → Fraction fraction →
        Exponent exponent →
        TreeText text (p.fill (.token (minus negative ++ ds ++ fraction ++ exponent))) →
        (decode text = .ok s' ↔
          fraction = [] ∧ exponent = [] ∧ (negative = true → n ≠ 0) ∧
            InRange (withSign negative n) ∧
            s' = { s with ram := Int64.ofInt (withSign negative n) })) ∧
      ∀ t text s', TreeText text (p.fill t) → decode text = .ok s' →
        ∃ v, t = .token v ∧ v ∉ wordTokens ∧ (NumberToken v ∨ ∃ x, Quoted v x) := by
  refine ⟨?_, ?_, ?_, ?_⟩
  · intro n q x text text' hx hq htext htext'
    have hnumber : Size (printInteger n.toInt) n := .number _ n (integral_printInteger n.toInt)
    have hquoted : Size q n := .text q x n hq (numeric_of_padded hx)
    exact ⟨decode_of_size hbase hs hnumber htext, decode_of_size hbase hs hquoted htext'⟩
  · intro q x text s' hq htext
    exact decode_quoted_iff hbase hs hq htext
  · intro negative ds fraction exponent n text s' hds hfraction hexponent htext
    exact decode_number_iff hbase hs hds hfraction hexponent htext
  · intro t text s' htext h
    obtain ⟨v, n, rfl, hv, -⟩ := (decode_ram_iff hbase hs htext).mp h
    exact ⟨v, rfl, token_of_size hv⟩

end

/-- A number, and a text with a blank, an escaped sign and a zero. -/
theorem decode_ram_seven :
    decode "\x7b\"ram\":0\x7d" = .ok {} ∧ decode "\x7b\"ram\":7\x7d" = .ok { ram := 7 } ∧
      decode "\x7b\"ram\":\" \\u002b07\"\x7d" = .ok { ram := 7 } := by
  have hnamed : Field.ram.NamedBy (printString "ram") :=
    ⟨"ram", by decide, quoted_printString "ram"⟩
  have htext (text : String) (v : List Char) (hv : Token v)
      (h : text.toList = '\x7b' :: (printString "ram" ++ ':' :: v) ++ ['\x7d']) :
      TreeText text ((Place.member [] [] _ hnamed).fill (.token v)) :=
    treeText_of_member (quoted_printString "ram") hv h
  have hquoted : Quoted "\" \\u002b07\"".toList " +07" := by
    refine ⟨" \\u002b07".toList, rfl, ?_⟩
    refine .cons [' '] _ ' ' _ (.plain ' ' (by decide) (by decide) (by decide)) ?_
    refine .cons "\\u002b".toList _ '+' _ (.unit "002b".toList '+' ⟨rfl, by decide⟩) ?_
    refine .cons ['0'] _ '0' _ (.plain '0' (by decide) (by decide) (by decide)) ?_
    exact .cons ['7'] _ '7' _ (.plain '7' (by decide) (by decide) (by decide)) .nil
  have hpadded : Padded " +07".toList (7 : Int64).toInt :=
    .mk [' '] ['+'] [] 1 7 (by simp [Blanks]; decide) (by simp [Blanks]) (by decide)
  have hbase := htext "\x7b\"ram\":0\x7d" ['0'] (token_of_integral integral_zero) (by rfl)
  have hs : decode "\x7b\"ram\":0\x7d" = .ok {} := by
    apply (decode_eq_ok_iff_tells hbase).mpr
    exact ⟨[.ram], .cons ⟨hnamed, .token _ _ size_of_zero.1⟩ .nil, by decide, fun _ _ => rfl⟩
  refine ⟨hs, ?_⟩
  have hseven : printInteger (7 : Int64).toInt = ['7'] := by decide +kernel
  apply (decode_ram hbase hs).1 7 _ _ _ _ hpadded hquoted
  · exact htext _ _ (token_of_integral (integral_printInteger _)) (by rw [hseven]; rfl)
  · exact htext _ _ (.inl (stringToken_of_quoted hquoted)) (by rfl)

end BundleInspect.DeviceSpec
