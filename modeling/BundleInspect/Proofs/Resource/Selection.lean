import BundleInspect.Resource.Predicate
import Mathlib.Data.Int.ModEq
import Mathlib.Data.List.TakeWhile

/-!
# What a resource flag selects

A flag is an integer literal, a type and a name around the only slash, or refused. `ofFlag_selects`
says which entries are selected in each of the cases, and that no flag is both.
-/

namespace BundleInspect.Resource

/-! ## Names -/

/-- Neither of the two parts is empty. -/
def IsName (raw : String) : Prop :=
  ∃ typeName entryName : String, raw = typeName ++ "/" ++ entryName ∧ typeName ≠ "" ∧
    entryName ≠ "" ∧ '/' ∉ typeName.toList ∧ '/' ∉ entryName.toList

theorem cut_unique {before after before' after' : List Char}
    (h : before ++ '/' :: after = before' ++ '/' :: after') (hbefore : '/' ∉ before)
    (hafter : '/' ∉ after) : before = before' ∧ after = after' := by
  rcases List.append_eq_append_iff.mp h with ⟨more, rfl, hmore⟩ | ⟨more, rfl, hmore⟩
  · cases more with
    | nil => simpa using hmore
    | cons c more =>
      simp only [List.cons_append, List.cons.injEq] at hmore
      exact absurd (by simp [hmore.2]) hafter
  · cases more with
    | nil => simpa using hmore.symm
    | cons c more =>
      simp only [List.cons_append, List.cons.injEq] at hmore
      exact absurd (by simp [← hmore.1]) hbefore

theorem splitName?_eq_some {raw typeName entryName : String}
    (h : splitName? raw = some (typeName, entryName)) :
    raw = typeName ++ "/" ++ entryName ∧ typeName ≠ "" ∧ entryName ≠ "" ∧
      '/' ∉ typeName.toList ∧ '/' ∉ entryName.toList := by
  unfold splitName? at h
  dsimp only at h
  split at h
  case h_2 => cases h
  case h_1 entry hdrop =>
    split at h
    case isTrue => cases h
    case isFalse hparts =>
      push Not at hparts
      obtain ⟨htype, hentry, hslash⟩ := hparts
      simp only [Option.some.injEq, Prod.mk.injEq] at h
      obtain ⟨rfl, rfl⟩ := h
      refine ⟨?_, ?_, ?_, ?_, by simpa using hslash⟩
      · rw [← String.toList_inj]
        have hraw := List.takeWhile_append_dropWhile (p := (· != '/')) (l := raw.toList)
        rw [hdrop] at hraw
        simpa using hraw.symm
      · exact fun hnil => htype (by simpa using congrArg String.toList hnil)
      · exact fun hnil => hentry (by simpa using congrArg String.toList hnil)
      · rw [String.toList_ofList]
        intro hmem
        simpa using List.mem_takeWhile_imp hmem

theorem splitName?_append {typeName entryName : String} (ht : typeName ≠ "") (he : entryName ≠ "")
    (hts : '/' ∉ typeName.toList) (hes : '/' ∉ entryName.toList) :
    splitName? (typeName ++ "/" ++ entryName) = some (typeName, entryName) := by
  have hall : ∀ c ∈ typeName.toList, (c != '/') = true := by
    intro c hc
    simp only [bne_iff_ne, ne_eq]
    rintro rfl
    exact hts hc
  have hchars : (typeName ++ "/" ++ entryName).toList =
      typeName.toList ++ '/' :: entryName.toList := by
    simp
  unfold splitName?
  rw [hchars, List.takeWhile_append_of_pos hall, List.dropWhile_append_of_pos hall]
  simp [ht, he, hes]

/-! ## IDs -/

theorem toInt32_eq_ofInt_iff (id : UInt32) (v : Int) :
    id.toInt32 = Int32.ofInt v ↔ v ≡ id.toNat [ZMOD 2 ^ 32] := by
  have hid := id.toNat_lt
  rw [← Int32.toBitVec_inj, UInt32.toBitVec_toInt32, Int32.toBitVec_ofInt, ← BitVec.toNat_inj,
    BitVec.toNat_ofInt, UInt32.toNat_toBitVec, Int.ModEq]
  omega

/-! ## Flags -/

theorem ofFlag_of_literal {raw : String} {v : Int} (h : literal? raw = some v) :
    Predicate.ofFlag (some raw) = .ok (.id (Int32.ofInt v)) := by
  simp [Predicate.ofFlag, Selector.parse, h]

theorem ofFlag_of_not_literal {raw : String} (h : literal? raw = none) :
    Predicate.ofFlag (some raw) =
      match splitName? raw with
      | some (typeName, entryName) => .ok (.name typeName entryName)
      | none => .error (.invalidResourceName raw) := by
  have hparse : Selector.parse raw = .name raw := by
    unfold Selector.parse
    rw [h]
  unfold Predicate.ofFlag
  rw [Option.map_some, hparse]
  rfl

theorem not_isName_of_literal {raw : String} {v : Int} (h : literal? raw = some v) :
    ¬ IsName raw := by
  rintro ⟨typeName, entryName, rfl, -⟩
  exact slash_notMem_of_literal? h (by simp)

theorem splitName?_eq_none_iff {raw : String} : splitName? raw = none ↔ ¬ IsName raw := by
  constructor
  · rintro h ⟨typeName, entryName, rfl, ht, he, hts, hes⟩
    rw [splitName?_append ht he hts hes] at h
    cases h
  · intro h
    cases hsplit : splitName? raw with
    | none => rfl
    | some parts => exact absurd ⟨_, _, splitName?_eq_some hsplit⟩ h

theorem selects_name_iff {raw typeName entryName : String} {e : Entry}
    (h : splitName? raw = some (typeName, entryName)) :
    (Predicate.name typeName entryName).selects e = true ↔
      raw = e.typeName ++ "/" ++ e.entryName := by
  obtain ⟨hraw, -, -, hts, hes⟩ := splitName?_eq_some h
  simp only [Predicate.selects, Bool.and_eq_true, beq_iff_eq]
  constructor
  · rintro ⟨htype, hentry⟩
    rw [hraw, htype, hentry]
  · intro heq
    rw [hraw, ← String.toList_inj] at heq
    obtain ⟨htype, hentry⟩ := cut_unique (by simpa using heq) hts hes
    exact ⟨String.toList_inj.mp htype.symm, String.toList_inj.mp hentry.symm⟩

/-- A flag is an integer literal, a name, or refused. -/
theorem ofFlag_selects (raw : String) (e : Entry) :
    (∃ v, literal? raw = some v ∧ fits64 v = true ∧ ¬ IsName raw ∧
      ∃ p, Predicate.ofFlag (some raw) = .ok p ∧
        (p.selects e = true ↔ v ≡ e.id.toNat [ZMOD 2 ^ 32])) ∨
    (literal? raw = none ∧ IsName raw ∧
      ∃ p, Predicate.ofFlag (some raw) = .ok p ∧
        (p.selects e = true ↔ raw = e.typeName ++ "/" ++ e.entryName)) ∨
    (literal? raw = none ∧ ¬ IsName raw ∧
      Predicate.ofFlag (some raw) = .error (.invalidResourceName raw)) := by
  cases hliteral : literal? raw with
  | some v =>
    refine .inl ⟨v, rfl, fits64_of_literal? hliteral, not_isName_of_literal hliteral, _,
      ofFlag_of_literal hliteral, ?_⟩
    rw [Predicate.selects, beq_iff_eq, toInt32_eq_ofInt_iff]
  | none =>
    cases hsplit : splitName? raw with
    | some parts =>
      obtain ⟨typeName, entryName⟩ := parts
      refine .inr (.inl ⟨rfl, ⟨_, _, splitName?_eq_some hsplit⟩, .name typeName entryName, ?_,
        selects_name_iff hsplit⟩)
      rw [ofFlag_of_not_literal hliteral, hsplit]
    | none =>
      refine .inr (.inr ⟨rfl, splitName?_eq_none_iff.mp hsplit, ?_⟩)
      rw [ofFlag_of_not_literal hliteral, hsplit]

end BundleInspect.Resource
