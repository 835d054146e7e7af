import BundleInspect.Text.Bytes
import Mathlib.Tactic.SplitIfs

/-!
# Cutting texts between bytes

A text is cut so many bytes from its front, which is possible between two characters only. Where the
bytes in front are those of ASCII characters, it always is.
-/

namespace BundleInspect.Text

/-- A place between two characters, and what follows it. -/
structure Cut (cs : List Char) (count : Nat) (rest : List Char) : Prop where
  valid : (⟨count⟩ : String.Pos.Raw).IsValid (String.ofList cs)
  after : Bytes.ofText (String.ofList rest) = (Bytes.ofText (String.ofList cs)).drop count

/-! ## The bytes of characters -/

theorem ofText_cons (c : Char) (cs : List Char) :
    Bytes.ofText (String.ofList (c :: cs)) =
      String.utf8EncodeChar c ++ Bytes.ofText (String.ofList cs) := by
  simp [Bytes.ofText, List.utf8Encode]

theorem ofText_ne_nil_iff {cs : List Char} : Bytes.ofText (String.ofList cs) ≠ [] ↔ cs ≠ [] := by
  cases cs with
  | nil => simp [Bytes.ofText]
  | cons c cs =>
    have hpos := c.utf8Size_pos
    rw [ofText_cons, ← List.length_pos_iff, List.length_append, String.length_utf8EncodeChar]
    simp
    omega

theorem utf8EncodeChar_ascii {c : Char} (h : c.toNat < 128) :
    String.utf8EncodeChar c = [UInt8.ofNat c.toNat] := by
  have hle : c.val.toNat ≤ 127 := Nat.le_of_lt_succ h
  rw [String.utf8EncodeChar.eq_1, if_pos hle]
  rfl

/-- The first of several bytes has its highest bit set. -/
theorem utf8EncodeChar_wide {c : Char} (h : ¬ c.toNat < 128) :
    ∃ b more, String.utf8EncodeChar c = b :: more ∧ 128 ≤ b.toNat := by
  have hlt : ¬ c.val.toNat ≤ 127 := fun hle => h (Nat.lt_succ_of_le hle)
  rw [String.utf8EncodeChar.eq_1, if_neg hlt]
  split_ifs
  all_goals
    refine ⟨_, _, rfl, ?_⟩
    rw [UInt8.toNat_ofNat']
    omega

def asciiBytes (cs : List Char) : Bytes :=
  cs.map fun c => UInt8.ofNat c.toNat

theorem ofText_append_ascii (before rest : List Char) (h : ∀ c ∈ before, c.toNat < 128) :
    Bytes.ofText (String.ofList (before ++ rest)) =
      asciiBytes before ++ Bytes.ofText (String.ofList rest) := by
  induction before with
  | nil => rfl
  | cons c before ih =>
    obtain ⟨hc, hbefore⟩ := List.forall_mem_cons.mp h
    rw [List.cons_append, ofText_cons, ih hbefore, utf8EncodeChar_ascii hc]
    rfl

theorem asciiBytes_prefix_iff (mark cs : List Char) (h : ∀ c ∈ mark, c.toNat < 128) :
    asciiBytes mark <+: Bytes.ofText (String.ofList cs) ↔ mark <+: cs := by
  constructor
  · intro hprefix
    induction mark generalizing cs with
    | nil => exact List.nil_prefix
    | cons a mark ih =>
      obtain ⟨ha, hmark⟩ := List.forall_mem_cons.mp h
      cases cs with
      | nil => simp [asciiBytes, Bytes.ofText] at hprefix
      | cons c cs =>
        rw [ofText_cons] at hprefix
        by_cases hc : c.toNat < 128
        · rw [utf8EncodeChar_ascii hc] at hprefix
          obtain ⟨hbyte, hmore⟩ := List.cons_prefix_cons.mp hprefix
          have hnat := congrArg UInt8.toNat hbyte
          rw [UInt8.toNat_ofNat', UInt8.toNat_ofNat'] at hnat
          have hac : a = c := by
            rw [← Char.toNat_inj]
            omega
          rw [hac]
          exact List.cons_prefix_cons.mpr ⟨rfl, ih _ hmark hmore⟩
        · obtain ⟨b, more, hbytes, hb⟩ := utf8EncodeChar_wide hc
          rw [hbytes] at hprefix
          obtain ⟨rfl, -⟩ := List.cons_prefix_cons.mp hprefix
          rw [UInt8.toNat_ofNat'] at hb
          omega
  · rintro ⟨rest, rfl⟩
    rw [ofText_append_ascii _ _ h]
    exact List.prefix_append _ _

/-! ## Cuts -/

theorem cut_ascii (before rest : List Char) (h : ∀ c ∈ before, c.toNat < 128) :
    Cut (before ++ rest) before.length rest := by
  constructor
  case after =>
    have hlength : (asciiBytes before).length = before.length := by simp [asciiBytes]
    rw [ofText_append_ascii _ _ h, ← hlength, List.drop_left]
  case valid =>
    rw [String.Pos.Raw.isValid_iff_exists_append]
    refine ⟨String.ofList before, String.ofList rest, String.ofList_append, ?_⟩
    have hbytes := congrArg List.length (ofText_append_ascii _ [] h)
    simp only [List.append_nil, Bytes.ofText, List.length_append, asciiBytes,
      List.length_map] at hbytes
    ext
    rw [String.byteIdx_rawEndPos, ← String.size_toByteArray]
    simpa [eq_comm] using hbytes

end BundleInspect.Text
