import BundleInspect.Proofs.Resource.Literals
import BundleInspect.Proofs.Resource.Selection

/-!
# What is displayed can be asked for

`ofFlag_display`: the text of a predicate names a flag that gives the predicate again, and the ways
to write an ID are flags for the entries with that ID.
-/

namespace BundleInspect.Resource

open Text

/-! ## Digits -/

theorem numeral_hex8 (id : UInt32) : Numeral 16 (Predicate.hex8 id).toList id.toNat := by
  have hzeros (count : Nat) :
      Numeral 16 (List.replicate count '0' ++ Nat.toDigits 16 id.toNat) id.toNat := by
    induction count with
    | zero => exact numeral_toDigits (by decide) (by decide) _
    | succ count ih => exact ih.zero_cons (by decide)
  rw [Predicate.hex8, String.toList_ofList]
  exact hzeros _

theorem length_hex8 (id : UInt32) : (Predicate.hex8 id).length = 8 := by
  have hle : (Nat.toDigits 16 id.toNat).length ≤ 8 :=
    (Nat.length_toDigits_le_iff (by decide) (by decide)).mpr id.toNat_lt
  rw [Predicate.hex8, String.length_ofList, List.length_append, List.length_replicate]
  omega

theorem mem_hex8 {id : UInt32} {c : Char} (h : c ∈ (Predicate.hex8 id).toList) :
    c ∈ "0123456789abcdef".toList := by
  have hlower : ∀ d < 16, Nat.digitChar d ∈ "0123456789abcdef".toList := by
    decide
  rw [Predicate.hex8, String.toList_ofList, List.mem_append] at h
  rcases h with h | h
  · rw [List.eq_of_mem_replicate h]
    decide
  · obtain ⟨d, hd, rfl⟩ := eq_digitChar_of_mem_toDigits (by decide) h
    exact hlower d hd

theorem unsigned_repr (n : Nat) : Unsigned n.repr.toList n := by
  rw [Nat.toList_repr]
  refine .decimal _ n (numeral_toDigits (by decide) (by decide) n) ?_
  by_cases hzero : (Nat.toDigits 10 n).head? = some '0'
  · rw [toDigits_of_zero_head hzero]
    exact .inl rfl
  · exact .inr hzero

theorem literal_toString (i : Int) : Literal (toString i).toList i := by
  rw [Int.toString_eq_repr, Int.repr_eq_if]
  split
  case isTrue h =>
    have hplain := Literal.plain _ _ (unsigned_repr i.toNat)
    rwa [Int.toNat_of_nonneg h] at hplain
  case isFalse h =>
    have hminus := Literal.minus _ _ (unsigned_repr (-i).toNat)
    rw [Int.toNat_of_nonneg (by omega), Int.neg_neg] at hminus
    rw [String.toList_append]
    exact hminus

/-! ## IDs -/

/-- Hexadecimal as it is displayed, decimal in two ways, hexadecimal behind a hash, octal. -/
def spellings (id : UInt32) : List String :=
  ["0x" ++ Predicate.hex8 id, toString id.toNat, toString id.toInt32.toInt,
    "#" ++ Predicate.hex8 id, "#" ++ String.ofList (Nat.toDigits 16 id.toNat),
    "0" ++ String.ofList (Nat.toDigits 8 id.toNat)]

theorem toInt_toInt32_modEq (id : UInt32) : id.toInt32.toInt ≡ id.toNat [ZMOD 2 ^ 32] := by
  rw [← toInt32_eq_ofInt_iff, Int32.ofInt_toInt]

theorem literal_of_mem_spellings {id : UInt32} {raw : String} (h : raw ∈ spellings id) :
    ∃ v, Literal raw.toList v ∧ v ≡ id.toNat [ZMOD 2 ^ 32] ∧ -2 ^ 31 ≤ v ∧ v < 2 ^ 32 := by
  have hlt := id.toNat_lt
  have hunsigned {cs : List Char} (hcs : Unsigned cs id.toNat) :
      ∃ v, Literal cs v ∧ v ≡ id.toNat [ZMOD 2 ^ 32] ∧ -2 ^ 31 ≤ v ∧ v < 2 ^ 32 :=
    ⟨id.toNat, .plain cs _ hcs, Int.ModEq.refl _, by omega, by omega⟩
  have hdigits {radix : Nat} (hradix : 1 < radix) (hle : radix ≤ 16) :
      Numeral radix (String.ofList (Nat.toDigits radix id.toNat)).toList id.toNat := by
    rw [String.toList_ofList]
    exact numeral_toDigits hradix hle _
  simp only [spellings, List.mem_cons, List.not_mem_nil, or_false] at h
  rcases h with rfl | rfl | rfl | rfl | rfl | rfl
  · rw [String.toList_append]
    exact hunsigned (.hexadecimal ['0', 'x'] _ _ (by decide) (numeral_hex8 id))
  · exact hunsigned (unsigned_repr id.toNat)
  · have hge := id.toInt32.le_toInt
    have hlt' := id.toInt32.toInt_lt
    exact ⟨_, literal_toString _, toInt_toInt32_modEq id, hge, by omega⟩
  · rw [String.toList_append]
    exact hunsigned (.hexadecimal ['#'] _ _ (by decide) (numeral_hex8 id))
  · rw [String.toList_append]
    exact hunsigned (.hexadecimal ['#'] _ _ (by decide) (hdigits (by decide) (by decide)))
  · rw [String.toList_append]
    exact hunsigned (.octal _ _ (hdigits (by decide) (by decide)))

theorem parse_of_mem_spellings {id : UInt32} {raw : String} (h : raw ∈ spellings id) :
    Selector.parse raw = .id id.toInt32 := by
  obtain ⟨v, hliteral, hmod, hge, hlt⟩ := literal_of_mem_spellings h
  have hread : literal? raw = some v :=
    literal?_eq_some_iff.mpr ⟨hliteral, by omega, by omega⟩
  simp only [Selector.parse, hread]
  rw [(toInt32_eq_ofInt_iff id v).mpr hmod]

theorem ofFlag_of_parse {raw : String} {value : Int32} (h : Selector.parse raw = .id value) :
    Predicate.ofFlag (some raw) = .ok (.id value) := by
  simp [Predicate.ofFlag, h]

theorem selects_id_iff (id : UInt32) (e : Entry) :
    (Predicate.id id.toInt32).selects e = true ↔ e.id = id := by
  rw [Predicate.selects, beq_iff_eq]
  constructor
  · intro h
    rw [← UInt32.toUInt32_toInt32 e.id, h, UInt32.toUInt32_toInt32]
  · intro h
    rw [h]

/-! ## Predicates -/

theorem exists_flag_of_ofFlag {raw : String} {p : Predicate}
    (h : Predicate.ofFlag (some raw) = .ok p) :
    ∃ q, p.display = "resource " ++ q ∧ Predicate.ofFlag (some q) = .ok p := by
  cases hliteral : literal? raw with
  | some v =>
    rw [ofFlag_of_literal hliteral, Except.ok.injEq] at h
    obtain rfl := h
    have hparse := parse_of_mem_spellings
      (List.mem_cons_self : _ ∈ spellings (Int32.ofInt v).toUInt32)
    rw [Int32.toInt32_toUInt32] at hparse
    refine ⟨_, ?_, ofFlag_of_parse hparse⟩
    rw [Predicate.display, ← String.append_assoc]
    rfl
  | none =>
    rw [ofFlag_of_not_literal hliteral] at h
    cases hsplit : splitName? raw with
    | none => simp [hsplit] at h
    | some parts =>
      obtain ⟨typeName, entryName⟩ := parts
      obtain ⟨hraw, -⟩ := splitName?_eq_some hsplit
      rw [hsplit, Except.ok.injEq] at h
      obtain rfl := h
      refine ⟨raw, ?_, ?_⟩
      · rw [hraw]
        rfl
      · rw [ofFlag_of_not_literal hliteral, hsplit]

theorem display_injective_of_ofFlag {raw raw' : String} {p p' : Predicate}
    (h : Predicate.ofFlag (some raw) = .ok p) (h' : Predicate.ofFlag (some raw') = .ok p')
    (heq : p.display = p'.display) : p = p' := by
  obtain ⟨q, hq, hflag⟩ := exists_flag_of_ofFlag h
  obtain ⟨q', hq', hflag'⟩ := exists_flag_of_ofFlag h'
  rw [hq, hq', String.append_right_inj] at heq
  rw [heq, hflag', Except.ok.injEq] at hflag
  exact hflag.symm

theorem display_ne_any_of_ofFlag {raw : String} {p : Predicate}
    (h : Predicate.ofFlag (some raw) = .ok p) : p.display ≠ Predicate.any.display := by
  obtain ⟨q, hq, -⟩ := exists_flag_of_ofFlag h
  intro heq
  rw [hq] at heq
  have hchars := congrArg (fun text => text.toList.head?) heq
  simp [Predicate.display] at hchars

/-- The text of a predicate ends in a flag that gives it again. -/
theorem ofFlag_display :
    (∀ raw p, Predicate.ofFlag (some raw) = .ok p →
      ∃ q, p.display = "resource " ++ q ∧ Predicate.ofFlag (some q) = .ok p) ∧
    (∀ raw raw' p p', Predicate.ofFlag (some raw) = .ok p → Predicate.ofFlag (some raw') = .ok p' →
      p.display = p'.display → p = p') ∧
    (∀ raw p, Predicate.ofFlag (some raw) = .ok p → p.display ≠ Predicate.any.display) ∧
    ∀ id : UInt32,
      ((Predicate.hex8 id).length = 8 ∧
        ∀ c ∈ (Predicate.hex8 id).toList, c ∈ "0123456789abcdef".toList) ∧
      (∀ raw ∈ spellings id, Selector.parse raw = .id id.toInt32 ∧
        Predicate.ofFlag (some raw) = .ok (.id id.toInt32)) ∧
      ∀ e, (Predicate.id id.toInt32).selects e = true ↔ e.id = id := by
  refine ⟨fun _ _ => exists_flag_of_ofFlag, fun _ _ _ _ => display_injective_of_ofFlag,
    fun _ _ => display_ne_any_of_ofFlag, fun id => ⟨⟨length_hex8 id, fun _ => mem_hex8⟩, ?_,
      selects_id_iff id⟩⟩
  intro raw hraw
  have hparse := parse_of_mem_spellings hraw
  exact ⟨hparse, ofFlag_of_parse hparse⟩

end BundleInspect.Resource
