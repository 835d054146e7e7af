import BundleInspect.CommandLine.Reader
import Mathlib.Algebra.Group.Nat.Defs
import Mathlib.Data.List.TakeWhile

/-!
# The shapes of words

Words that begin with two hyphens name a setting and may hold its value, and those that begin with one
are letters; words that begin with none are values, free words or commands.
-/

namespace BundleInspect

theorem Bytes.ofText_append (a b : String) :
    Bytes.ofText (a ++ b) = Bytes.ofText a ++ Bytes.ofText b := by
  simp [Bytes.ofText]

theorem Bytes.ofText_inj {a b : String} : Bytes.ofText a = Bytes.ofText b ↔ a = b := by
  constructor
  · intro h
    have htext := congrArg Bytes.text? h
    simpa using htext
  · rintro rfl
    rfl

theorem Bytes.ofText_of_text? {bytes : Bytes} {text : String} (h : bytes.text? = some text) :
    Bytes.ofText text = bytes := by
  unfold Bytes.text? String.fromUTF8? at h
  split at h
  · cases h
    rfl
  · cases h

/-! ## ASCII characters

A character that is not ASCII takes several bytes, whose bits do not make up an ASCII one. -/

namespace Bytes

theorem tail_eq_char {code size n k : Nat} {low high : UInt8} {rest : Bytes} {c : Char}
    (h : tail code size n low high rest = .char c k) :
    ∃ code', c = Char.ofNat code' ∧ code * 64 ^ n ≤ code' := by
  induction n generalizing code size low high rest with
  | zero =>
    cases h
    exact ⟨code, rfl, by simp⟩
  | succ n ih =>
    cases rest with
    | nil => cases h
    | cons b rest =>
      unfold tail at h
      split_ifs at h
      obtain ⟨code', hc, hle⟩ := ih h
      refine ⟨code', hc, le_trans ?_ hle⟩
      rw [Nat.pow_succ', ← Nat.mul_assoc]
      exact Nat.mul_le_mul_right _ (Nat.le_add_right _ _)

/-- The first byte after the lead byte adds bits of its own. -/
theorem tail_succ_eq_char {code size n k : Nat} {low high : UInt8} {rest : Bytes} {c : Char}
    (h : tail code size (n + 1) low high rest = .char c k) :
    ∃ b code', low.toNat ≤ b ∧ b ≤ high.toNat ∧ c = Char.ofNat code' ∧
      (code * 64 + b % 64) * 64 ^ n ≤ code' := by
  cases rest with
  | nil => cases h
  | cons b rest =>
    unfold tail at h
    split_ifs at h with hb
    simp only [Bool.and_eq_true, decide_eq_true_eq, UInt8.le_iff_toNat_le] at hb
    obtain ⟨code', hc, hle⟩ := tail_eq_char h
    exact ⟨b.toNat, code', hb.1, hb.2, hc, hle⟩

theorem head_eq_char_of_wide {lead : UInt8} {rest : Bytes} {c : Char} {k : Nat}
    (hwide : ¬ lead < 0x80) (h : head lead rest = .char c k) :
    ∃ code, c = Char.ofNat code ∧ 128 ≤ code := by
  rw [head, if_neg hwide] at h
  unfold follow? at h
  simp only [UInt8.le_iff_toNat_le, Bool.and_eq_true, decide_eq_true_eq, beq_iff_eq,
    ← UInt8.toNat_inj, UInt8.reduceToNat] at h
  split_ifs at h
  all_goals
    obtain ⟨b, code, hlow, hhigh, hc, hle⟩ := tail_succ_eq_char h
    refine ⟨code, hc, le_trans ?_ hle⟩
    simp only [UInt8.reduceToNat, Nat.reduceEqDiff, ↓reduceIte] at hlow hhigh ⊢
    omega

theorem head_eq_char_of_ascii {lead : UInt8} {rest : Bytes} {c : Char} {k : Nat}
    (h : head lead rest = .char c k) (hpos : 0 < c.toNat) (hlt : c.toNat < 128) :
    lead.toNat = c.toNat ∧ k = 1 := by
  have htoNat (n : Nat) : (Char.ofNat n).toNat = n ∨ (Char.ofNat n).toNat = 0 := by
    by_cases hvalid : n.isValidChar
    · rw [Char.ofNat, dif_pos hvalid]
      exact .inl rfl
    · rw [Char.ofNat, dif_neg hvalid]
      exact .inr rfl
  by_cases hwide : lead < 0x80
  · rw [head, if_pos hwide] at h
    cases h
    refine ⟨?_, rfl⟩
    rcases htoNat lead.toNat with hcode | hzero
    · exact hcode.symm
    · omega
  · obtain ⟨code, rfl, hle⟩ := head_eq_char_of_wide hwide h
    rcases htoNat code with hcode | hzero <;> omega

end Bytes

namespace CommandLine

/-! ## Settings -/

def Setting.word (s : Setting) : Word :=
  Bytes.ofText ("--" ++ s.long)

def Setting.joined (s : Setting) (value : Bytes) : Word :=
  Bytes.ofText ("--" ++ s.long ++ "=") ++ value

theorem Setting.long_bytes (s : Setting) :
    Bytes.ofText s.long ≠ [] ∧ equalsSign ∉ Bytes.ofText s.long := by
  cases s <;> decide

theorem Setting.word_eq (s : Setting) : s.word = hyphen :: hyphen :: Bytes.ofText s.long := by
  rw [word, Bytes.ofText_append]
  rfl

theorem Setting.joined_eq (s : Setting) (value : Bytes) :
    s.joined value = hyphen :: hyphen :: (Bytes.ofText s.long ++ equalsSign :: value) := by
  rw [joined, Bytes.ofText_append, Bytes.ofText_append, List.append_assoc, List.append_assoc]
  rfl

/-! ## Two hyphens -/

theorem ne_equalsSign_of_mem {name : Bytes} (h : equalsSign ∉ name) :
    ∀ b ∈ name, (b != equalsSign) = true := by
  intro b hb
  rw [bne_iff_ne]
  rintro rfl
  exact h hb

theorem longParts?_word (s : Setting) : longParts? s.word = some (Bytes.ofText s.long, none) := by
  obtain ⟨hne, hequals⟩ := s.long_bytes
  have hname := ne_equalsSign_of_mem hequals
  rw [s.word_eq]
  obtain ⟨c, more, hcons⟩ := List.exists_cons_of_ne_nil hne
  rw [hcons] at hname ⊢
  have hdrop := List.dropWhile_eq_nil_iff.mpr hname
  have htake := List.takeWhile_eq_self_iff.mpr hname
  simp only [longParts?, and_self, ↓reduceIte, hdrop, htake]

theorem longParts?_joined (s : Setting) (value : Bytes) :
    longParts? (s.joined value) = some (Bytes.ofText s.long, some value) := by
  obtain ⟨hne, hequals⟩ := s.long_bytes
  have hname := ne_equalsSign_of_mem hequals
  rw [s.joined_eq]
  obtain ⟨c, more, hcons⟩ := List.exists_cons_of_ne_nil hne
  rw [hcons] at hname ⊢
  have hdrop : (c :: more ++ equalsSign :: value).dropWhile (· != equalsSign) =
      equalsSign :: value := by
    rw [List.dropWhile_append_of_pos hname]
    simp
  have htake : (c :: more ++ equalsSign :: value).takeWhile (· != equalsSign) = c :: more := by
    rw [List.takeWhile_append_of_pos hname]
    simp
  rw [List.cons_append] at hdrop htake ⊢
  simp only [longParts?, and_self, ↓reduceIte, hdrop, htake]

theorem of_longParts? {w : Word} {parts : Bytes × Option Bytes} (h : longParts? w = some parts) :
    w.head? = some hyphen ∧ w ≠ escapeWord := by
  unfold longParts? at h
  split at h
  · split_ifs at h with hhyphens
    exact ⟨congrArg some hhyphens.1, by simp [escapeWord]⟩
  · cases h

theorem eq_of_longParts? {w : Word} {name : Bytes} {joined : Option Bytes}
    (h : longParts? w = some (name, joined)) :
    w = hyphen :: hyphen :: (name ++ (joined.map (equalsSign :: ·)).getD []) := by
  unfold longParts? at h
  split at h
  case h_2 => cases h
  case h_1 a b c more =>
    split_ifs at h with hhyphens
    obtain ⟨rfl, rfl⟩ := hhyphens
    have hsplit := List.takeWhile_append_dropWhile (p := (· != equalsSign)) (l := c :: more)
    dsimp only at h
    split at h
    · next hdrop =>
      cases h
      rw [hdrop] at hsplit
      rw [Option.map_none, Option.getD_none, hsplit]
    · next b' value hdrop =>
      cases h
      have hequals : b' = equalsSign := by
        have hhead := List.head?_dropWhile_not (· != equalsSign) (c :: more)
        rw [hdrop] at hhead
        simpa using hhead
      rw [hdrop, hequals] at hsplit
      rw [Option.map_some, Option.getD_some, hsplit]

/-! ## Letters -/

theorem eq_of_shortPart? {w : Word} {body : Bytes} (h : shortPart? w = some body) :
    w = hyphen :: body ∧ body ≠ [] := by
  unfold shortPart? at h
  split at h
  · split_ifs at h with hhyphen
    cases h
    exact ⟨by rw [hhyphen.1], List.cons_ne_nil _ _⟩
  · cases h

/-! ## No hyphen -/

theorem longParts?_of_head {w : Word} (h : w.head? ≠ some hyphen) : longParts? w = none := by
  unfold longParts?
  split
  · next a b c more =>
    have ha : a ≠ hyphen := by
      rintro rfl
      exact h rfl
    simp [ha]
  · rfl

theorem shortPart?_of_head {w : Word} (h : w.head? ≠ some hyphen) : shortPart? w = none := by
  unfold shortPart?
  split
  · next a b more =>
    have ha : a ≠ hyphen := by
      rintro rfl
      exact h rfl
    simp [ha]
  · rfl

theorem ne_escapeWord_of_head {w : Word} (h : w.head? ≠ some hyphen) : w ≠ escapeWord := by
  rintro rfl
  exact h rfl

theorem head?_ne_or_lone {w : Word} (hlong : longParts? w = none) (hshort : shortPart? w = none)
    (hescape : w ≠ escapeWord) : w.head? ≠ some hyphen ∨ w = [hyphen] := by
  match w with
  | [] => simp
  | [a] =>
    by_cases ha : a = hyphen
    · simp [ha]
    · simp [ha]
  | [a, b] =>
    by_cases ha : a = hyphen
    · subst ha
      by_cases hb : b = hyphen
      · subst hb
        exact absurd rfl hescape
      · simp [shortPart?, hb] at hshort
    · simp [ha]
  | a :: b :: c :: more =>
    by_cases ha : a = hyphen
    · subst ha
      by_cases hb : b = hyphen
      · subst hb
        unfold longParts? at hlong
        simp only [and_self, ↓reduceIte] at hlong
        split at hlong <;> cases hlong
      · simp [shortPart?, hb] at hshort
    · simp [ha]

/-! ## Commands -/

theorem ofWord?_word (c : CommandName) : CommandName.ofWord? (Bytes.ofText c.word) = some c := by
  cases c <;> decide

theorem word_of_ofWord? {w : Word} {c : CommandName} (h : CommandName.ofWord? w = some c) :
    w = Bytes.ofText c.word := by
  unfold CommandName.ofWord? at h
  have hword := List.find?_some h
  exact (eq_of_beq hword).symm

theorem word_ne_helpWord (c : CommandName) : Bytes.ofText c.word ≠ helpWord := by
  cases c <;> decide

theorem ofWord?_of_hyphen {w : Word} (h : w.head? = some hyphen) :
    CommandName.ofWord? w = none := by
  rw [CommandName.ofWord?, List.find?_eq_none]
  intro c _ hc
  rw [← eq_of_beq hc] at h
  revert h
  cases c <;> decide

theorem ne_helpWord_of_hyphen {w : Word} (h : w.head? = some hyphen) : w ≠ helpWord := by
  rintro rfl
  exact absurd h (by decide)

end CommandLine
end BundleInspect
