import BundleInspect.Json.Value
import BundleInspect.Proofs.Json.Numbers
import BundleInspect.Proofs.Json.Strings

/-!
# Values are read as the grammar says

What it is for a reader to accept the values of a grammar, and that the readers of texts, truth
values and integers do.
-/

namespace BundleInspect.Json

/-! ## Spaces -/

theorem isSpace_eq_true_iff {c : Char} : isSpace c = true ↔ c ∈ [' ', '\n', '\t', '\r'] := by
  simp [isSpace, or_assoc]

theorem spaces_nil : Spaces [] := by
  simp [Spaces]

theorem Spaces.append {w w' : List Char} (h : Spaces w) (h' : Spaces w') : Spaces (w ++ w') :=
  List.forall_mem_append.mpr ⟨h, h'⟩

theorem skipSpace_append {w : List Char} (h : Spaces w) (cs : List Char) :
    skipSpace (w ++ cs) = skipSpace cs :=
  List.dropWhile_append_of_pos fun c hc => isSpace_eq_true_iff.mpr (h c hc)

theorem skipSpace_cons {c : Char} (h : isSpace c = false) (cs : List Char) :
    skipSpace (c :: cs) = c :: cs := by
  simp [skipSpace, h]

theorem skipSpace_eq {cs rest : List Char} (h : skipSpace cs = rest) :
    ∃ w, cs = w ++ rest ∧ Spaces w := by
  refine ⟨cs.takeWhile isSpace, ?_, ?_⟩
  · rw [← h]
    exact List.takeWhile_append_dropWhile.symm
  · intro c hc
    exact isSpace_eq_true_iff.mp (List.mem_takeWhile_imp hc)

theorem start_eq_ok {cs rest : List Char} (h : start cs = .ok rest) :
    ∃ w, cs = w ++ rest ∧ Spaces w := by
  unfold start at h
  split at h
  · cases h
  · cases h
    exact skipSpace_eq rfl

theorem start_of_spaces {w : List Char} {c : Char} (hw : Spaces w) (hc : isSpace c = false)
    (cs : List Char) : start (w ++ c :: cs) = .ok (c :: cs) := by
  unfold start
  rw [skipSpace_append hw, skipSpace_cons hc]

theorem word_eq_ok_iff {es cs rest : List Char} : word es cs = .ok rest ↔ cs = es ++ rest := by
  induction es generalizing cs with
  | nil => simp [word]
  | cons e es ih =>
    cases cs with
    | nil => simp [word]
    | cons c cs =>
      rw [word]
      split
      case isTrue h => simp [h, ih]
      case isFalse h => simp [h]

theorem word_then_eq_ok_iff {α : Type} {es cs rest : List Char} {x y : α} :
    (do return (x, ← word es cs) : Except Fault (α × List Char)) = .ok (y, rest) ↔
      y = x ∧ cs = es ++ rest := by
  rw [bind_eq_ok]
  constructor
  · rintro ⟨rest', hword, h⟩
    simp only [pure_eq_ok, Except.ok.injEq, Prod.mk.injEq] at h
    obtain ⟨rfl, rfl⟩ := h
    exact ⟨rfl, word_eq_ok_iff.mp hword⟩
  · rintro ⟨rfl, h⟩
    exact ⟨rest, word_eq_ok_iff.mpr h, rfl⟩

/-! ## Readers -/

/-- The reader takes what the grammar describes off the front, and nothing else. -/
structure Accepts {α : Type} (reader : List Char → Except Fault (α × List Char))
    (Value : List Char → α → Prop) : Prop where
  sound : ∀ {cs rest x}, reader cs = .ok (x, rest) → ∃ v, cs = v ++ rest ∧ Value v x
  complete : ∀ {v rest x}, Value v x → Ends rest → reader (v ++ rest) = .ok (x, rest)

def Spaced {α : Type} (Value : List Char → α → Prop) (cs : List Char) (x : α) : Prop :=
  ∃ w v, cs = w ++ v ∧ Spaces w ∧ Value v x

/-- No value starts with a space or with the end of a list. -/
def Led {α : Type} (Value : List Char → α → Prop) : Prop :=
  ∀ v x, Value v x → ∃ c cs, v = c :: cs ∧ isSpace c = false ∧ c ≠ ']'

section
variable {α β : Type} {reader : List Char → Except Fault (α × List Char)}
variable {Value Value' : List Char → α → Prop}

theorem Accepts.congr (h : Accepts reader Value) (hiff : ∀ v x, Value v x ↔ Value' v x) :
    Accepts reader Value' := by
  constructor
  · intro cs rest x hread
    obtain ⟨v, hv, hvalue⟩ := h.sound hread
    exact ⟨v, hv, (hiff v x).mp hvalue⟩
  · intro v rest x hvalue hrest
    exact h.complete ((hiff v x).mpr hvalue) hrest

theorem Accepts.unique (h : Accepts reader Value) {v : List Char} {x y : α} (hx : Value v x)
    (hy : Value v y) : x = y := by
  have hread := h.complete hx ends_nil
  rw [h.complete hy ends_nil] at hread
  cases hread
  rfl

theorem Accepts.map (h : Accepts reader Value) (f : α → β) :
    Accepts (fun cs => do let (x, rest) ← reader cs; return (f x, rest))
      (fun v y => ∃ x, Value v x ∧ f x = y) := by
  constructor
  · intro cs rest y hread
    rw [bind_eq_ok] at hread
    obtain ⟨⟨x, rest'⟩, hx, hread⟩ := hread
    simp only [pure_eq_ok, Except.ok.injEq, Prod.mk.injEq] at hread
    obtain ⟨rfl, rfl⟩ := hread
    obtain ⟨v, hv, hvalue⟩ := h.sound hx
    exact ⟨v, hv, x, hvalue, rfl⟩
  · rintro v rest y ⟨x, hvalue, rfl⟩ hrest
    simp [h.complete hvalue hrest]

theorem Accepts.spaced_congr (h : Accepts reader (Spaced Value))
    (hiff : ∀ v x, Value v x ↔ Value' v x) : Accepts reader (Spaced Value') := by
  refine h.congr ?_
  intro cs x
  constructor
  · rintro ⟨w, v, hcs, hw, hv⟩
    exact ⟨w, v, hcs, hw, (hiff v x).mp hv⟩
  · rintro ⟨w, v, hcs, hw, hv⟩
    exact ⟨w, v, hcs, hw, (hiff v x).mpr hv⟩

theorem Accepts.spaced_map (h : Accepts reader (Spaced Value)) (f : α → β) :
    Accepts (fun cs => do let (x, rest) ← reader cs; return (f x, rest))
      (Spaced fun v y => ∃ x, Value v x ∧ f x = y) := by
  refine (h.map f).congr ?_
  intro cs y
  constructor
  · rintro ⟨x, ⟨w, v, hcs, hw, hv⟩, hy⟩
    exact ⟨w, v, hcs, hw, x, hv, hy⟩
  · rintro ⟨w, v, hcs, hw, x, hv, hy⟩
    exact ⟨x, ⟨w, v, hcs, hw, hv⟩, hy⟩

theorem Accepts.of_start (h : Accepts reader Value) (hled : Led Value) :
    Accepts (fun cs => start cs >>= reader) (Spaced Value) := by
  constructor
  · intro cs rest x hread
    rw [bind_eq_ok] at hread
    obtain ⟨cs', hstart, hread⟩ := hread
    obtain ⟨w, rfl, hw⟩ := start_eq_ok hstart
    obtain ⟨v, rfl, hvalue⟩ := h.sound hread
    exact ⟨w ++ v, by simp, w, v, rfl, hw, hvalue⟩
  · rintro _ rest x ⟨w, v, rfl, hw, hvalue⟩ hrest
    obtain ⟨c, cs, rfl, hc, -⟩ := hled v x hvalue
    have hread := h.complete hvalue hrest
    rw [List.cons_append] at hread
    rw [List.append_assoc, List.cons_append, start_of_spaces hw hc, ok_bind, hread]

end

/-! ## Texts and truth values -/

theorem quoted_led : Led Quoted := by
  rintro _ text ⟨body, rfl, -⟩
  exact ⟨'"', body ++ ['"'], rfl, rfl, by decide⟩

theorem Quoted.head {c : Char} {cs : List Char} {text : String} (h : Quoted (c :: cs) text) :
    c = '"' := by
  obtain ⟨body, heq, -⟩ := h
  exact (List.cons.inj heq).1

theorem truth_led : Led Truth := by
  rintro _ b (_ | _)
  · exact ⟨'t', _, rfl, rfl, by decide⟩
  · exact ⟨'f', _, rfl, rfl, by decide⟩

theorem text_accepts : Accepts text (Spaced Quoted) := by
  refine Accepts.of_start ⟨?_, ?_⟩ quoted_led
  · intro cs rest x h
    split at h
    case h_1 r =>
      obtain ⟨body, rfl, hbody⟩ := string_eq_ok_iff.mp h
      exact ⟨'"' :: body ++ ['"'], by simp, body, rfl, hbody⟩
    case h_2 => exact absurd h (refuse_ne_ok _ _ _)
  · rintro _ rest x ⟨body, rfl, hbody⟩ -
    exact string_eq_ok_iff.mpr ⟨body, by simp, hbody⟩

theorem boolean_accepts : Accepts boolean (Spaced Truth) := by
  refine Accepts.of_start ⟨?_, ?_⟩ truth_led
  · intro cs rest b h
    split at h
    case h_1 r =>
      obtain ⟨rfl, rfl⟩ := word_then_eq_ok_iff.mp h
      exact ⟨['t', 'r', 'u', 'e'], rfl, .yes⟩
    case h_2 r =>
      obtain ⟨rfl, rfl⟩ := word_then_eq_ok_iff.mp h
      exact ⟨['f', 'a', 'l', 's', 'e'], rfl, .no⟩
    case h_3 => exact absurd h (refuse_ne_ok _ _ _)
  · rintro _ rest b (_ | _) -
    · rfl
    · rfl

/-! ## Integers -/

theorem integral_starts {v : List Char} {i : Int} (h : Integral v i) :
    ∃ c cs, v = c :: cs ∧ startsNumber c = true := by
  cases h with
  | natural _ n hn =>
    obtain ⟨c, cs, rfl, hc⟩ := decimal_starts hn
    exact ⟨c, cs, rfl, by simp [startsNumber, hc]⟩
  | negative ds n => exact ⟨'-', ds, rfl, rfl⟩

theorem integral_led : Led Integral := by
  intro v i h
  obtain ⟨c, cs, rfl, hc⟩ := integral_starts h
  refine ⟨c, cs, rfl, ?_, ?_⟩
  · by_contra hspace
    rw [Bool.not_eq_false, isSpace_eq_true_iff] at hspace
    simp only [List.mem_cons, List.not_mem_nil, or_false] at hspace
    rcases hspace with rfl | rfl | rfl | rfl <;> cases hc
  · rintro rfl
    cases hc

def Within (low high : Int) (v : List Char) (i : Int) : Prop :=
  Integral v i ∧ low ≤ i ∧ i ≤ high

theorem within_led {low high : Int} : Led (Within low high) :=
  fun v i h => integral_led v i h.1

theorem integer_accepts {wanted : Wanted} {low high : Int} (hlow : -0x8000000000000000 ≤ low)
    (hhigh : high < 0x10000000000000000) :
    Accepts (integer wanted low high) (Spaced (Within low high)) := by
  refine Accepts.of_start ⟨?_, ?_⟩ within_led
  · intro cs rest i h
    split at h
    case h_1 c r =>
      split at h
      case isTrue =>
        rw [bind_eq_ok] at h
        obtain ⟨⟨n, rest'⟩, hnumber, h⟩ := h
        split at h
        case h_1 i' rest' heq =>
          simp only [Prod.mk.injEq] at heq
          obtain ⟨rfl, rfl⟩ := heq
          split at h
          case isTrue hbounds =>
            cases h
            obtain ⟨v, hv, hi⟩ := number_eq_integer hnumber
            exact ⟨v, hv, hi, hbounds⟩
          case isFalse => cases h
        case h_2 => cases h
      case isFalse => exact absurd h (refuse_ne_ok _ _ _)
    case h_2 => exact absurd h (refuse_ne_ok _ _ _)
  · rintro v rest i ⟨hi, hbounds⟩ hrest
    obtain ⟨c, cs, rfl, hc⟩ := integral_starts hi
    have hnumber := number_of_integral hi (by omega) (by omega) hrest
    rw [List.cons_append] at hnumber ⊢
    simp [hc, hnumber, hbounds]

theorem unsigned32_accepts :
    Accepts unsigned32 (Spaced fun v (n : UInt32) => Integral v n.toNat) := by
  have hread : Accepts (integer .unsigned32 0 0xffffffff) _ :=
    integer_accepts (by decide) (by decide)
  refine (hread.spaced_map fun i => UInt32.ofNat i.toNat).spaced_congr ?_
  intro v n
  constructor
  · rintro ⟨i, ⟨hi, hlow, hhigh⟩, rfl⟩
    have hlt : i.toNat < UInt32.size := by
      rw [UInt32.size]
      omega
    rw [UInt32.toNat_ofNat_of_lt' hlt, Int.toNat_of_nonneg hlow]
    exact hi
  · intro hn
    have := n.toNat_lt
    exact ⟨n.toNat, ⟨hn, by omega, by omega⟩, by simp⟩

theorem signed32_accepts :
    Accepts signed32 (Spaced fun v (n : Int32) => Integral v n.toInt) := by
  have hread : Accepts (integer .signed32 (-0x80000000) 0x7fffffff) _ :=
    integer_accepts (by decide) (by decide)
  refine (hread.spaced_map fun i => Int32.ofInt i).spaced_congr ?_
  intro v n
  constructor
  · rintro ⟨i, ⟨hi, hlow, hhigh⟩, rfl⟩
    rw [Int32.toInt_ofInt_of_le hlow (by omega)]
    exact hi
  · intro hn
    have hlow := n.minValue_le_toInt
    have hhigh := n.toInt_lt
    exact ⟨n.toInt, ⟨hn, hlow, by omega⟩, by simp⟩

/-! ## Values of more than one kind -/

theorem nullable_led {α : Type} {Value : List Char → α → Prop} (h : Led Value) :
    Led (Nullable Value) := by
  intro v x hv
  cases hv with
  | null => exact ⟨'n', _, rfl, rfl, by decide⟩
  | value _ y hy => exact h v y hy

theorem optional_accepts {α : Type} {item : List Char → Except Fault (α × List Char)}
    {Value : List Char → α → Prop} (h : Accepts item (Spaced Value)) (hled : Led Value)
    (hnull : ∀ cs x, ¬ Value ('n' :: cs) x) :
    Accepts (optional item) (Spaced (Nullable Value)) := by
  constructor
  · intro cs rest x hread
    unfold optional at hread
    split at hread
    case h_1 r heq =>
      obtain ⟨w, rfl, hw⟩ := skipSpace_eq heq
      obtain ⟨rfl, rfl⟩ := word_then_eq_ok_iff.mp hread
      exact ⟨w ++ null, by simp [null], w, null, rfl, hw, .null⟩
    case h_2 =>
      obtain ⟨w, hcs, hw⟩ := skipSpace_eq (rfl : skipSpace cs = _)
      obtain ⟨_, hr, y, ⟨w', v, rfl, hw', hv⟩, rfl⟩ := (h.map some).sound hread
      refine ⟨(w ++ w') ++ v, ?_, w ++ w', v, rfl, hw.append hw', .value v y hv⟩
      rw [hcs, hr]
      simp
  · rintro _ rest x ⟨w, v, rfl, hw, hv⟩ hrest
    cases hv with
    | null =>
      unfold optional
      rw [List.append_assoc, skipSpace_append hw]
      rfl
    | value _ y hy =>
      obtain ⟨c, cs, rfl, hc, -⟩ := hled v y hy
      have hread := h.complete ⟨[], c :: cs, rfl, spaces_nil, hy⟩ hrest
      rw [List.nil_append, List.cons_append] at hread
      unfold optional
      rw [List.append_assoc, skipSpace_append hw, List.cons_append, skipSpace_cons hc]
      split
      case h_1 heq =>
        cases heq
        exact absurd hy (hnull cs y)
      case h_2 => simp [hread]

/-- What follows an opening brace, or what follows an opening bracket. -/
def Bracketed {α : Type} (Members Elements : List Char → α → Prop) (cs : List Char) (x : α) :
    Prop :=
  (∃ t, cs = '\x7b' :: t ∧ Members t x) ∨ ∃ t, cs = '[' :: t ∧ Elements t x

theorem bracketed_led {α : Type} {Members Elements : List Char → α → Prop} :
    Led (Bracketed Members Elements) := by
  rintro _ x (⟨t, rfl, -⟩ | ⟨t, rfl, -⟩)
  · exact ⟨'\x7b', t, rfl, rfl, by decide⟩
  · exact ⟨'[', t, rfl, rfl, by decide⟩

theorem record_accepts {α : Type} {name : String}
    {ofObject ofList : List Char → Except Fault (α × List Char)}
    {Members Elements : List Char → α → Prop} (hobject : Accepts ofObject Members)
    (hlist : Accepts ofList Elements) :
    Accepts (record name ofObject ofList) (Spaced (Bracketed Members Elements)) := by
  refine Accepts.of_start ⟨?_, ?_⟩ bracketed_led
  · intro cs rest x h
    split at h
    case h_1 r =>
      obtain ⟨t, rfl, ht⟩ := hobject.sound h
      exact ⟨'\x7b' :: t, rfl, .inl ⟨t, rfl, ht⟩⟩
    case h_2 r =>
      obtain ⟨t, rfl, ht⟩ := hlist.sound h
      exact ⟨'[' :: t, rfl, .inr ⟨t, rfl, ht⟩⟩
    case h_3 => exact absurd h (refuse_ne_ok _ _ _)
  · rintro _ rest x (⟨t, rfl, ht⟩ | ⟨t, rfl, ht⟩) hrest
    · exact hobject.complete ht hrest
    · exact hlist.complete ht hrest

theorem finish_eq_ok_iff {cs : List Char} : finish cs = .ok () ↔ Spaces cs := by
  constructor
  · intro h
    unfold finish at h
    split at h
    case h_1 heq =>
      obtain ⟨w, rfl, hw⟩ := skipSpace_eq heq
      rw [List.append_nil]
      exact hw
    case h_2 => cases h
  · intro h
    have hnil := skipSpace_append h []
    rw [List.append_nil] at hnil
    rw [finish, hnil]
    rfl

end BundleInspect.Json
