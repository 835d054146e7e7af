import BundleInspect.DeviceSpec.Decode
import BundleInspect.Proofs.DeviceSpec.Language
import BundleInspect.Proofs.Json.Sequences

/-!
# Sizes are read as the grammar says

`memory_accepts`: a size is a number of 64 bits, or a text that holds one among blanks.
-/

namespace BundleInspect.DeviceSpec

open Json

/-! ## Numbers in texts -/

def InRange (i : Int) : Prop :=
  -0x8000000000000000 ≤ i ∧ i < 0x8000000000000000

instance (i : Int) : Decidable (InRange i) :=
  inferInstanceAs (Decidable (_ ∧ _))

def withSign (negative : Bool) (n : Nat) : Int :=
  if negative then -n else n

theorem inRange_toInt (n : Int64) : InRange n.toInt :=
  ⟨n.le_toInt, n.toInt_lt⟩

theorem toInt_ofInt_of_inRange {i : Int} (h : InRange i) : (Int64.ofInt i).toInt = i :=
  Int64.toInt_ofInt_of_le h.1 h.2

theorem inRange_of_le {negative : Bool} {m n : Nat} (hle : m ≤ n)
    (h : InRange (withSign negative n)) : InRange (withSign negative m) := by
  unfold InRange at h ⊢
  cases negative with
  | false =>
    simp only [withSign, Bool.false_eq_true, if_false] at h ⊢
    omega
  | true =>
    simp only [withSign, if_true] at h ⊢
    omega

theorem digits64_cons {c : Char} (hdigit : c.isDigit = true) (negative : Bool) (value : Nat)
    (cs : List Char) :
    digits64 negative (withSign negative value) (c :: cs) =
      if InRange (withSign negative (10 * value + digitValue c)) then
        digits64 negative (withSign negative (10 * value + digitValue c)) cs
      else .error (if negative then .tooSmall else .tooLarge) := by
  rw [digits64, if_pos hdigit]
  cases negative with
  | false =>
    have hnext : 10 * (value : Int) + digitValue c = (10 * value + digitValue c : Nat) := by
      omega
    have hiff : InRange (10 * value + digitValue c : Nat) ↔
        ((10 * value + digitValue c : Nat) : Int) < 0x8000000000000000 := by
      unfold InRange
      omega
    simp only [withSign, Bool.false_eq_true, if_false, hnext, hiff]
  | true =>
    have hnext : 10 * -(value : Int) - digitValue c = -(10 * value + digitValue c : Nat) := by
      omega
    have hiff : InRange (-(10 * value + digitValue c : Nat)) ↔
        -0x8000000000000000 ≤ -((10 * value + digitValue c : Nat) : Int) := by
      unfold InRange
      omega
    simp only [withSign, if_true, hnext, hiff]

theorem digits64_eq_ok_iff {negative : Bool} {value : Nat} {cs : List Char} {i : Int}
    (hvalue : InRange (withSign negative value)) :
    digits64 negative (withSign negative value) cs = .ok i ↔
      ∃ n, Text.digitsIn? 10 value cs = some n ∧ withSign negative n = i ∧ InRange i := by
  induction cs generalizing value with
  | nil =>
    simp only [digits64, Text.digitsIn?, Except.ok.injEq, Option.some.injEq]
    constructor
    · rintro rfl
      exact ⟨value, rfl, rfl, hvalue⟩
    · rintro ⟨_, rfl, rfl, -⟩
      rfl
  | cons c cs ih =>
    simp only [Text.digitsIn?, digitIn?_eq_digitValue]
    by_cases hdigit : c.isDigit = true
    · rw [digits64_cons hdigit]
      simp only [hdigit, if_true, Option.bind_eq_bind, Option.bind_some]
      split
      case isTrue hnext => exact ih hnext
      case isFalse hnext =>
        -- Once the digits leave the range, no further digit brings them back.
        constructor
        · intro h
          cases h
        · rintro ⟨n, hn, rfl, hrange⟩
          exact absurd (inRange_of_le (digitsIn?_le hn) hrange) hnext
    · simp [digits64, hdigit]

theorem signed64_eq_ok_iff {negative : Bool} {cs : List Char} {i : Int} :
    signed64 negative cs = .ok i ↔
      ∃ n, Text.valueIn? 10 cs = some n ∧ withSign negative n = i ∧ InRange i := by
  have hzero : withSign negative 0 = 0 := by
    cases negative <;> rfl
  cases cs with
  | nil => simp [signed64, Text.valueIn?]
  | cons c cs =>
    have hrange : InRange (withSign negative 0) := by
      rw [hzero]
      decide
    have hdigits : digits64 negative (withSign negative 0) (c :: cs) = .ok i ↔ _ :=
      digits64_eq_ok_iff hrange
    rw [hzero] at hdigits
    simpa [signed64, Text.valueIn?] using hdigits

theorem integer64_eq_ok_iff {cs : List Char} {i : Int} :
    integer64 cs = .ok i ↔ Signed cs i ∧ InRange i := by
  constructor
  · intro h
    unfold integer64 at h
    split at h
    case h_1 => cases h
    case h_2 ds =>
      obtain ⟨n, hn, rfl, hrange⟩ := signed64_eq_ok_iff.mp h
      exact ⟨.plus ds n hn, hrange⟩
    case h_3 ds =>
      obtain ⟨n, hn, rfl, hrange⟩ := signed64_eq_ok_iff.mp h
      exact ⟨.minus ds n hn, hrange⟩
    case h_4 =>
      obtain ⟨n, hn, rfl, hrange⟩ := signed64_eq_ok_iff.mp h
      exact ⟨.plain _ n hn, hrange⟩
  · rintro ⟨hsigned, hrange⟩
    cases hsigned with
    | plain _ n hn =>
      have hread : signed64 false cs = .ok (n : Int) :=
        signed64_eq_ok_iff.mpr ⟨n, hn, rfl, hrange⟩
      obtain ⟨⟨c, ds, rfl⟩, hdigit⟩ := digit_of_valueIn? hn
      have hc := hdigit c List.mem_cons_self
      unfold integer64
      split
      case h_1 heq => cases heq
      case h_2 heq => cases heq; cases hc
      case h_3 heq => cases heq; cases hc
      case h_4 => exact hread
    | plus ds n hn => exact signed64_eq_ok_iff.mpr ⟨n, hn, rfl, hrange⟩
    | minus ds n hn => exact signed64_eq_ok_iff.mpr ⟨n, hn, rfl, hrange⟩

/-! ## Blanks -/

theorem exists_trim (cs : List Char) :
    ∃ b b', cs = b ++ Text.trim cs ++ b' ∧ Blanks b ∧ Blanks b' := by
  have hleft : cs = cs.takeWhile Text.isBlank ++ cs.dropWhile Text.isBlank :=
    List.takeWhile_append_dropWhile.symm
  have hright : (cs.dropWhile Text.isBlank).reverse =
      (cs.dropWhile Text.isBlank).reverse.takeWhile Text.isBlank ++
        (cs.dropWhile Text.isBlank).reverse.dropWhile Text.isBlank :=
    List.takeWhile_append_dropWhile.symm
  refine ⟨cs.takeWhile Text.isBlank,
    ((cs.dropWhile Text.isBlank).reverse.takeWhile Text.isBlank).reverse, ?_, ?_, ?_⟩
  · rw [Text.trim, List.append_assoc, ← List.reverse_append, ← hright, List.reverse_reverse]
    exact hleft
  · intro c hc
    exact List.mem_takeWhile_imp hc
  · intro c hc
    exact List.mem_takeWhile_imp (List.mem_reverse.mp hc)

theorem dropWhile_of_notBlank {v : List Char} (hv : ∀ c ∈ v, Text.isBlank c = false)
    (hnil : v ≠ []) (cs : List Char) : (v ++ cs).dropWhile Text.isBlank = v ++ cs := by
  obtain ⟨c, v, rfl⟩ := List.exists_cons_of_ne_nil hnil
  simp [hv c List.mem_cons_self]

theorem trim_of_blanks {b v b' : List Char} (hb : Blanks b) (hb' : Blanks b') (hnil : v ≠ [])
    (hv : ∀ c ∈ v, Text.isBlank c = false) : Text.trim (b ++ v ++ b') = v := by
  have hright : (v ++ b').reverse.dropWhile Text.isBlank = v.reverse := by
    have hnil' : v.reverse ≠ [] := by simpa using hnil
    have hv' : ∀ c ∈ v.reverse, Text.isBlank c = false := by simpa using hv
    have hb'' : ∀ c ∈ b'.reverse, Text.isBlank c = true := by simpa [Blanks] using hb'
    have hreverse := dropWhile_of_notBlank hv' hnil' []
    rw [List.append_nil] at hreverse
    rw [List.reverse_append, List.dropWhile_append_of_pos hb'', hreverse]
  rw [Text.trim, List.append_assoc, List.dropWhile_append_of_pos hb,
    dropWhile_of_notBlank hv hnil, hright, List.reverse_reverse]

theorem isBlank_of_isDigit {c : Char} (h : c.isDigit = true) : Text.isBlank c = false := by
  have hc := Text.isDigit_iff.mp h
  simp [Text.isBlank]
  omega

theorem signed_not_blank {v : List Char} {i : Int} (h : Signed v i) :
    v ≠ [] ∧ ∀ c ∈ v, Text.isBlank c = false := by
  cases h with
  | plain _ n hn =>
    obtain ⟨⟨c, ds, rfl⟩, hdigit⟩ := digit_of_valueIn? hn
    exact ⟨List.cons_ne_nil c ds, fun c hc => isBlank_of_isDigit (hdigit c hc)⟩
  | plus ds n hn =>
    obtain ⟨-, hdigit⟩ := digit_of_valueIn? hn
    exact ⟨List.cons_ne_nil '+' ds, List.forall_mem_cons.mpr
      ⟨rfl, fun c hc => isBlank_of_isDigit (hdigit c hc)⟩⟩
  | minus ds n hn =>
    obtain ⟨-, hdigit⟩ := digit_of_valueIn? hn
    exact ⟨List.cons_ne_nil '-' ds, List.forall_mem_cons.mpr
      ⟨rfl, fun c hc => isBlank_of_isDigit (hdigit c hc)⟩⟩

theorem trimmed_eq_ok_iff {cs : List Char} {i : Int} :
    integer64 (Text.trim cs) = .ok i ↔ Numeric cs i ∧ InRange i := by
  rw [integer64_eq_ok_iff]
  constructor
  · rintro ⟨hsigned, hrange⟩
    obtain ⟨b, b', hcs, hb, hb'⟩ := exists_trim cs
    exact ⟨⟨b, _, b', hcs, hb, hb', hsigned⟩, hrange⟩
  · rintro ⟨⟨b, v, b', rfl, hb, hb', hsigned⟩, hrange⟩
    obtain ⟨hnil, hv⟩ := signed_not_blank hsigned
    rw [trim_of_blanks hb hb' hnil hv]
    exact ⟨hsigned, hrange⟩

/-! ## Sizes -/

def Stands : List Char → Scanned → Prop
  | v, .integer i => Integral v i
  | v, .string text => Quoted v text
  | _, .other => True

theorem scan_eq_ok {depth : Nat} {cs rest : List Char} {x : Scanned}
    (h : scan depth cs = .ok (x, rest)) (hx : x ≠ .other) :
    ∃ w v, cs = w ++ v ++ rest ∧ Spaces w ∧ Stands v x := by
  unfold scan at h
  rw [bind_eq_ok] at h
  obtain ⟨cs', hstart, h⟩ := h
  obtain ⟨w, rfl, hw⟩ := start_eq_ok hstart
  split at h
  case h_1 => exact absurd (word_then_eq_ok_iff.mp h).1 hx
  case h_2 => exact absurd (word_then_eq_ok_iff.mp h).1 hx
  case h_3 => exact absurd (word_then_eq_ok_iff.mp h).1 hx
  case h_4 r =>
    rw [bind_eq_ok] at h
    obtain ⟨⟨text, rest'⟩, hstring, h⟩ := h
    cases h
    obtain ⟨body, rfl, hbody⟩ := string_eq_ok_iff.mp hstring
    exact ⟨w, '"' :: body ++ ['"'], by simp, hw, body, rfl, hbody⟩
  case h_5 r =>
    split at h
    case h_1 => cases h
    case h_2 =>
      rw [bind_eq_ok] at h
      obtain ⟨_, -, h⟩ := h
      cases h
      exact absurd rfl hx
  case h_6 r =>
    split at h
    case h_1 => cases h
    case h_2 =>
      rw [bind_eq_ok] at h
      obtain ⟨_, -, h⟩ := h
      cases h
      exact absurd rfl hx
  case h_7 c r _ _ _ _ _ _ =>
    split at h
    case isTrue =>
      rw [bind_eq_ok] at h
      obtain ⟨⟨n, rest'⟩, hnumber, h⟩ := h
      cases h
      cases n with
      | integer i =>
        obtain ⟨v, hv, hi⟩ := number_eq_integer hnumber
        exact ⟨w, v, by rw [hv, List.append_assoc], hw, hi⟩
      | real => exact absurd rfl hx
    case isFalse => cases h
  case h_8 => cases h

theorem scan_of_quoted {depth : Nat} {w v rest : List Char} {text : String} (hw : Spaces w)
    (hv : Quoted v text) : scan depth (w ++ v ++ rest) = .ok (.string text, rest) := by
  obtain ⟨body, rfl, hbody⟩ := hv
  have hstring : string (body ++ '"' :: rest) = .ok (text, rest) :=
    string_eq_ok_iff.mpr ⟨body, rfl, hbody⟩
  have hstart := start_of_spaces hw (rfl : isSpace '"' = false) (body ++ '"' :: rest)
  unfold scan
  simp [hstart, hstring]

theorem scan_of_integral {depth : Nat} {w v rest : List Char} {i : Int} (hw : Spaces w)
    (hv : Integral v i) (hrange : InRange i) (hrest : Ends rest) :
    scan depth (w ++ v ++ rest) = .ok (.integer i, rest) := by
  obtain ⟨hlow, hhigh⟩ := hrange
  have hnumber := number_of_integral hv hlow (by omega) hrest
  obtain ⟨c, cs, rfl, hc⟩ := integral_starts hv
  obtain ⟨_, _, heq, hspace, -⟩ := integral_led _ _ hv
  cases heq
  have hstart := start_of_spaces hw hspace (cs ++ rest)
  rw [List.cons_append] at hnumber
  unfold scan
  rw [List.append_assoc, List.cons_append, hstart, ok_bind]
  split
  case h_7 heq =>
    cases heq
    simp [hc, hnumber, Number.scanned]
  case h_8 heq => cases heq
  -- Nothing else starts as a number does.
  all_goals
    rename_i heq
    cases heq
    cases hc

theorem bytesOf_eq_ok {v : List Char} {x : Scanned} {n : Int64} (h : bytesOf x = .ok n)
    (hv : Stands v x) : Size v n := by
  unfold bytesOf at h
  split at h
  case h_1 i =>
    split at h
    case isTrue hrange =>
      cases h
      refine .number v _ ?_
      rw [toInt_ofInt_of_inRange hrange]
      exact hv
    case isFalse => cases h
  case h_2 text =>
    split at h
    case h_1 i hi =>
      cases h
      obtain ⟨hnumeric, hrange⟩ := trimmed_eq_ok_iff.mp hi
      refine .text v text _ hv ?_
      rw [toInt_ofInt_of_inRange hrange]
      exact hnumeric
    case h_2 => cases h
  case h_3 => cases h

theorem bytesOf_integer (n : Int64) : bytesOf (.integer n.toInt) = .ok n := by
  have hrange : -0x8000000000000000 ≤ n.toInt ∧ n.toInt < 0x8000000000000000 := inRange_toInt n
  rw [bytesOf, if_pos hrange, Int64.ofInt_toInt]

theorem bytesOf_string {text : String} {n : Int64} (h : Numeric text.toList n.toInt) :
    bytesOf (.string text) = .ok n := by
  rw [bytesOf, trimmed_eq_ok_iff.mpr ⟨h, inRange_toInt n⟩]
  simp

theorem memory_accepts {leave : List Char → List Char} :
    Accepts (memory leave) (Spaced Size) := by
  constructor
  · intro cs rest n h
    rw [memory, bind_eq_ok] at h
    obtain ⟨⟨x, rest'⟩, hscan, h⟩ := h
    dsimp only at h
    split at h
    case h_1 hn =>
      cases h
      have hx : x ≠ .other := by
        rintro rfl
        cases hn
      obtain ⟨w, v, rfl, hw, hv⟩ := scan_eq_ok hscan hx
      exact ⟨w ++ v, rfl, w, v, rfl, hw, bytesOf_eq_ok hn hv⟩
    case h_2 => cases h
  · rintro _ rest n ⟨w, v, rfl, hw, hv⟩ hrest
    unfold memory
    cases hv with
    | number _ hv =>
      rw [scan_of_integral hw hv (inRange_toInt n) hrest]
      simp [bytesOf_integer]
    | text text _ hv hn =>
      rw [scan_of_quoted hw hv]
      simp [bytesOf_string hn]

theorem size_led : Led Size := by
  intro v n h
  cases h with
  | number _ hv => exact integral_led v _ hv
  | text text _ hv => exact quoted_led v text hv

end BundleInspect.DeviceSpec
