import BundleInspect.Proofs.Json.Reading

/-!
# Lists and objects are read as the grammar says

A list reader accepts the items that its item reader accepts. An object reader goes through the
steps that its entry reader takes, one a member.
-/

namespace BundleInspect.Json

/-! ## Between items -/

theorem Gap.append_spaces {first : Bool} {gap w : List Char} (h : Gap first gap) (hw : Spaces w) :
    Gap first (gap ++ w) := by
  cases h with
  | first _ hgap => exact .first _ (hgap.append hw)
  | comma w₁ w₂ h₁ h₂ =>
    rw [List.append_assoc, List.cons_append]
    exact .comma _ _ h₁ (h₂.append hw)

theorem Ends.of_spaces {w rest : List Char} (hw : Spaces w) (h : Ends rest) : Ends (w ++ rest) := by
  cases w with
  | nil => exact h
  | cons c w =>
    have hc := hw c List.mem_cons_self
    simp only [List.mem_cons, List.not_mem_nil, or_false] at hc
    rcases hc with rfl | rfl | rfl | rfl <;> rintro _ ⟨⟩ <;> decide

theorem ends_comma (rest : List Char) : Ends (',' :: rest) := by
  rintro _ ⟨⟩
  decide

theorem ends_bracket (rest : List Char) : Ends (']' :: rest) := by
  rintro _ ⟨⟩
  decide

theorem ends_brace (rest : List Char) : Ends ('\x7d' :: rest) := by
  rintro _ ⟨⟩
  decide

theorem Items.follow {α : Type} {Item : List Char → α → Prop} {Follows : List Char → Prop}
    {inner rest : List Char} {xs : List α} (h : Items Item false inner xs)
    (hspaces : ∀ w rest, Spaces w → Follows rest → Follows (w ++ rest))
    (hcomma : ∀ rest, Follows (',' :: rest)) (hrest : Follows rest) : Follows (inner ++ rest) := by
  cases h with
  | done _ _ hw => exact hspaces _ rest hw hrest
  | next _ gap v more x xs hgap hv hmore =>
    cases hgap with
    | comma w w' hw hw' =>
      simp only [List.append_assoc, List.cons_append]
      exact hspaces w _ hw (hcomma _)

theorem Items.ends {α : Type} {Item : List Char → α → Prop} {inner rest : List Char} {xs : List α}
    (h : Items Item false inner xs) (hrest : Ends rest) : Ends (inner ++ rest) :=
  h.follow (fun _ _ hw hends => hends.of_spaces hw) ends_comma hrest

theorem nextElement_eq_false {first : Bool} {cs rest : List Char}
    (h : nextElement first cs = .ok (false, rest)) :
    ∃ w r, rest = ']' :: r ∧ cs = w ++ rest ∧ Spaces w := by
  unfold nextElement at h
  split at h
  case h_1 => cases h
  case h_2 r heq =>
    cases h
    obtain ⟨w, hw⟩ := skipSpace_eq heq
    exact ⟨w, r, rfl, hw⟩
  case h_3 =>
    split at h
    · cases h
    · split at h
      · split at h <;> cases h
      · cases h

theorem nextElement_eq_true {first : Bool} {cs rest : List Char}
    (h : nextElement first cs = .ok (true, rest)) : ∃ gap, cs = gap ++ rest ∧ Gap first gap := by
  unfold nextElement at h
  split at h
  case h_1 => cases h
  case h_2 => cases h
  case h_3 c r hc heq =>
    obtain ⟨w, rfl, hw⟩ := skipSpace_eq heq
    split at h
    case isTrue hfirst =>
      cases h
      rw [hfirst]
      exact ⟨w, rfl, .first w hw⟩
    case isFalse hfirst =>
      rw [eq_false_of_ne_true hfirst]
      split at h
      case isTrue hcomma =>
        rw [hcomma]
        split at h
        case h_1 => cases h
        case h_2 => cases h
        case h_3 =>
          cases h
          obtain ⟨w', hr, hw'⟩ := skipSpace_eq (rfl : skipSpace r = _)
          refine ⟨w ++ ',' :: w', ?_, .comma w w' hw hw'⟩
          rw [List.append_assoc, List.cons_append, ← hr]
      case isFalse => cases h

theorem nextElement_of_close {w : List Char} (hw : Spaces w) (first : Bool) (rest : List Char) :
    nextElement first (w ++ ']' :: rest) = .ok (false, ']' :: rest) := by
  unfold nextElement
  rw [skipSpace_append hw, skipSpace_cons rfl]
  rfl

theorem nextElement_of_gap {first : Bool} {gap : List Char} {c : Char} (h : Gap first gap)
    (hspace : isSpace c = false) (hclose : c ≠ ']') (cs : List Char) :
    nextElement first (gap ++ c :: cs) = .ok (true, c :: cs) := by
  cases h with
  | first _ hw =>
    unfold nextElement
    rw [skipSpace_append hw, skipSpace_cons hspace]
    simp
  | comma w w' hw hw' =>
    unfold nextElement
    rw [List.append_assoc, skipSpace_append hw, List.cons_append, skipSpace_cons rfl]
    simp [skipSpace_append hw', skipSpace_cons hspace, hclose]

theorem nextKey_eq_false {first : Bool} {cs rest : List Char}
    (h : nextKey first cs = .ok (false, rest)) :
    ∃ w r, rest = '\x7d' :: r ∧ cs = w ++ rest ∧ Spaces w := by
  unfold nextKey at h
  split at h
  case h_1 => cases h
  case h_2 r heq =>
    cases h
    obtain ⟨w, hw⟩ := skipSpace_eq heq
    exact ⟨w, r, rfl, hw⟩
  case h_3 =>
    split at h
    · split at h <;> cases h
    · split at h
      · split at h <;> cases h
      · cases h

theorem nextKey_eq_true {first : Bool} {cs rest : List Char}
    (h : nextKey first cs = .ok (true, rest)) : ∃ gap, cs = gap ++ '"' :: rest ∧ Gap first gap := by
  unfold nextKey at h
  split at h
  case h_1 => cases h
  case h_2 => cases h
  case h_3 c r hc heq =>
    obtain ⟨w, rfl, hw⟩ := skipSpace_eq heq
    split at h
    case isTrue hfirst =>
      rw [hfirst]
      split at h
      case isTrue hquote =>
        cases h
        rw [hquote]
        exact ⟨w, rfl, .first w hw⟩
      case isFalse => cases h
    case isFalse hfirst =>
      rw [eq_false_of_ne_true hfirst]
      split at h
      case isTrue hcomma =>
        rw [hcomma]
        split at h
        case h_1 => cases h
        case h_2 heq' =>
          cases h
          obtain ⟨w', rfl, hw'⟩ := skipSpace_eq heq'
          exact ⟨w ++ ',' :: w', by simp, .comma w w' hw hw'⟩
        case h_3 => cases h
        case h_4 => cases h
      case isFalse => cases h

theorem nextKey_of_close {w : List Char} (hw : Spaces w) (first : Bool) (rest : List Char) :
    nextKey first (w ++ '\x7d' :: rest) = .ok (false, '\x7d' :: rest) := by
  unfold nextKey
  rw [skipSpace_append hw, skipSpace_cons rfl]
  rfl

theorem nextKey_of_gap {first : Bool} {gap : List Char} (h : Gap first gap) (cs : List Char) :
    nextKey first (gap ++ '"' :: cs) = .ok (true, cs) := by
  cases h with
  | first _ hw =>
    unfold nextKey
    rw [skipSpace_append hw, skipSpace_cons rfl]
    simp
  | comma w w' hw hw' =>
    unfold nextKey
    rw [List.append_assoc, skipSpace_append hw, List.cons_append, skipSpace_cons rfl]
    have hquote : skipSpace ('"' :: cs) = '"' :: cs := skipSpace_cons rfl cs
    simp [skipSpace_append hw', hquote]

/-! ## Closing -/

theorem closeList_eq_ok_iff {cs rest : List Char} :
    closeList cs = .ok rest ↔ ∃ w, cs = w ++ ']' :: rest ∧ Spaces w := by
  constructor
  · intro h
    unfold closeList at h
    split at h
    case h_1 => cases h
    case h_2 heq =>
      cases h
      exact skipSpace_eq heq
    case h_3 => split at h <;> cases h
    case h_4 => cases h
  · rintro ⟨w, rfl, hw⟩
    rw [closeList, skipSpace_append hw, skipSpace_cons rfl]
    rfl

@[simp] theorem closeList_bracket (rest : List Char) : closeList (']' :: rest) = .ok rest := by
  rw [closeList, skipSpace_cons rfl]
  rfl

@[simp] theorem closeObject_brace (rest : List Char) : closeObject ('\x7d' :: rest) = .ok rest := by
  rw [closeObject, skipSpace_cons rfl]
  rfl

/-! ## Lists -/

section
variable {α : Type} {item : List Char → Except Fault (α × List Char)}
variable {Item : List Char → α → Prop}

theorem elements_sound (h : Accepts item (Spaced Item)) {fuel : Nat} {first : Bool}
    {cs rest : List Char} {xs : List α} (hread : elements item fuel first cs = .ok (xs, rest)) :
    ∃ inner r, rest = ']' :: r ∧ cs = inner ++ rest ∧ Items Item first inner xs := by
  induction fuel generalizing first cs xs with
  | zero => cases hread
  | succ fuel ih =>
    rw [elements, bind_eq_ok] at hread
    obtain ⟨⟨more, cs'⟩, hnext, hread⟩ := hread
    cases more with
    | false =>
      obtain ⟨w, r, rfl, rfl, hw⟩ := nextElement_eq_false hnext
      cases hread
      exact ⟨w, r, rfl, rfl, .done first w hw⟩
    | true =>
      obtain ⟨gap, rfl, hgap⟩ := nextElement_eq_true hnext
      dsimp only at hread
      rw [bind_eq_ok] at hread
      obtain ⟨⟨x, cs''⟩, hitem, hread⟩ := hread
      obtain ⟨_, rfl, w, v, rfl, hw, hv⟩ := h.sound hitem
      dsimp only at hread
      rw [bind_eq_ok] at hread
      obtain ⟨⟨ys, rest'⟩, hrest, hread⟩ := hread
      cases hread
      obtain ⟨inner, r, rfl, rfl, hinner⟩ := ih hrest
      refine ⟨(gap ++ w) ++ v ++ inner, r, rfl, by simp, ?_⟩
      exact .next first _ v inner x ys (hgap.append_spaces hw) hv hinner

theorem elements_complete (h : Accepts item (Spaced Item)) (hled : Led Item) {first : Bool}
    {inner : List Char} {xs : List α} (hinner : Items Item first inner xs) (rest : List Char)
    {fuel : Nat} (hfuel : inner.length < fuel) :
    elements item fuel first (inner ++ ']' :: rest) = .ok (xs, ']' :: rest) := by
  induction hinner generalizing fuel with
  | done first w hw =>
    obtain ⟨fuel, rfl⟩ := Nat.exists_eq_add_one_of_ne_zero (Nat.ne_zero_of_lt hfuel)
    simp [elements, nextElement_of_close hw]
  | next first gap v more x xs hgap hv hxs ih =>
    obtain ⟨fuel, rfl⟩ := Nat.exists_eq_add_one_of_ne_zero (Nat.ne_zero_of_lt hfuel)
    obtain ⟨c, cs, rfl, hspace, hclose⟩ := hled v x hv
    have hitem := h.complete ⟨[], c :: cs, rfl, spaces_nil, hv⟩ (hxs.ends (ends_bracket rest))
    rw [List.nil_append, List.cons_append] at hitem
    have hmore : more.length < fuel := by
      simp only [List.length_append, List.length_cons] at hfuel
      omega
    have hrest := ih hmore
    have hnext := nextElement_of_gap hgap hspace hclose (cs ++ (more ++ ']' :: rest))
    rw [List.append_assoc, List.append_assoc, List.cons_append, elements, hnext]
    simp [hitem, hrest]

theorem list_accepts (h : Accepts item (Spaced Item)) (hled : Led Item) :
    Accepts (list item) (fun v xs => ∃ inner, v = inner ++ [']'] ∧ Items Item true inner xs) := by
  constructor
  · intro cs rest xs hread
    rw [list, bind_eq_ok] at hread
    obtain ⟨⟨ys, cs'⟩, helements, hread⟩ := hread
    obtain ⟨inner, r, rfl, rfl, hinner⟩ := elements_sound h helements
    simp only [closeList_bracket, ok_bind, pure_eq_ok, Except.ok.injEq, Prod.mk.injEq] at hread
    obtain ⟨rfl, rfl⟩ := hread
    exact ⟨inner ++ [']'], by simp, inner, rfl, hinner⟩
  · rintro _ rest xs ⟨inner, rfl, hinner⟩ -
    -- Every item takes at least one character, and so does the bracket.
    have hfuel : inner.length < (inner ++ ']' :: rest).length + 1 := by
      rw [List.length_append]
      omega
    rw [list, List.append_assoc, List.singleton_append,
      elements_complete h hled hinner rest hfuel]
    simp

end

theorem listed_led {α : Type} {Item : List Char → α → Prop} : Led (Listed Item) := by
  rintro _ xs ⟨inner, rfl, -⟩
  exact ⟨'[', inner ++ [']'], rfl, rfl, by decide⟩

theorem texts_accepts : Accepts texts (Spaced (Listed Quoted)) := by
  refine Accepts.of_start ⟨?_, ?_⟩ listed_led
  · intro cs rest xs h
    split at h
    case h_1 r =>
      obtain ⟨_, rfl, inner, rfl, hinner⟩ := (list_accepts text_accepts quoted_led).sound h
      exact ⟨'[' :: inner ++ [']'], rfl, inner, rfl, hinner⟩
    case h_2 => exact absurd h (refuse_ne_ok _ _ _)
  · rintro _ rest xs ⟨inner, rfl, hinner⟩ hrest
    exact (list_accepts text_accepts quoted_led).complete ⟨inner, rfl, hinner⟩ hrest

/-! ## Objects -/

/-- The steps that take a state through all members. -/
inductive Through {σ : Type} (Step : σ → String × List Char → σ → Prop) :
    σ → List (String × List Char) → σ → Prop where
  | nil (s : σ) : Through Step s [] s
  | cons (s s' s'' : σ) (m : String × List Char) (ms : List (String × List Char)) :
    Step s m s' → Through Step s' ms s'' → Through Step s (m :: ms) s''

section
variable {σ : Type} {entry : σ → String → List Char → Except Fault (σ × List Char)}
variable {Step : σ → String × List Char → σ → Prop}

def Takes (entry : σ → String → List Char → Except Fault (σ × List Char))
    (Step : σ → String × List Char → σ → Prop) : Prop :=
  ∀ s key, Accepts (entry s key) fun a s' => ∃ v, Assigned a v ∧ Step s (key, v) s'

theorem members_sound (h : Takes entry Step) {fuel : Nat} {first : Bool} {s s' : σ}
    {cs rest : List Char} (hread : members entry fuel first s cs = .ok (s', rest)) :
    ∃ inner ms r, rest = '\x7d' :: r ∧ cs = inner ++ rest ∧ Items Member first inner ms ∧
      Through Step s ms s' := by
  induction fuel generalizing first s cs with
  | zero => cases hread
  | succ fuel ih =>
    rw [members, bind_eq_ok] at hread
    obtain ⟨⟨more, cs'⟩, hnext, hread⟩ := hread
    cases more with
    | false =>
      obtain ⟨w, r, rfl, rfl, hw⟩ := nextKey_eq_false hnext
      cases hread
      exact ⟨w, [], r, rfl, rfl, .done first w hw, .nil _⟩
    | true =>
      obtain ⟨gap, rfl, hgap⟩ := nextKey_eq_true hnext
      dsimp only at hread
      rw [bind_eq_ok] at hread
      obtain ⟨⟨key, cs''⟩, hkey, hread⟩ := hread
      obtain ⟨body, rfl, hbody⟩ := string_eq_ok_iff.mp hkey
      dsimp only at hread
      rw [bind_eq_ok] at hread
      obtain ⟨⟨s₁, cs₁⟩, hentry, hread⟩ := hread
      obtain ⟨a, rfl, v, ha, hstep⟩ := (h s key).sound hentry
      obtain ⟨inner, ms, r, rfl, rfl, hinner, hthrough⟩ := ih hread
      refine ⟨gap ++ ('"' :: body ++ ['"'] ++ a) ++ inner, (key, v) :: ms, r, rfl, by simp, ?_, ?_⟩
      · exact .next first gap _ inner (key, v) ms hgap ⟨_, a, rfl, ⟨body, rfl, hbody⟩, ha⟩ hinner
      · exact .cons s s₁ s' (key, v) ms hstep hthrough

theorem members_complete (h : Takes entry Step) {first : Bool} {inner : List Char}
    {ms : List (String × List Char)} (hinner : Items Member first inner ms) {s s' : σ}
    (hthrough : Through Step s ms s') (rest : List Char) {fuel : Nat}
    (hfuel : inner.length < fuel) :
    members entry fuel first s (inner ++ '\x7d' :: rest) = .ok (s', '\x7d' :: rest) := by
  induction hinner generalizing fuel s with
  | done first w hw =>
    obtain ⟨fuel, rfl⟩ := Nat.exists_eq_add_one_of_ne_zero (Nat.ne_zero_of_lt hfuel)
    cases hthrough
    simp [members, nextKey_of_close hw]
  | next first gap m more x ms hgap hm hms ih =>
    obtain ⟨fuel, rfl⟩ := Nat.exists_eq_add_one_of_ne_zero (Nat.ne_zero_of_lt hfuel)
    obtain ⟨_, a, rfl, ⟨body, rfl, hbody⟩, ha⟩ := hm
    cases hthrough with
    | cons _ s₁ _ _ _ hstep hthrough =>
      have hnext := nextKey_of_gap hgap (body ++ '"' :: (a ++ (more ++ '\x7d' :: rest)))
      have hkey : string (body ++ '"' :: (a ++ (more ++ '\x7d' :: rest))) = .ok (x.1, _) :=
        string_eq_ok_iff.mpr ⟨body, rfl, hbody⟩
      have hentry := (h s x.1).complete ⟨x.2, ha, hstep⟩ (hms.ends (ends_brace rest))
      have hmore : more.length < fuel := by
        simp only [List.length_append, List.length_cons] at hfuel
        omega
      have hrest := ih hthrough hmore
      simp [members, hnext, hkey, hentry, hrest]

theorem object_accepts (h : Takes entry Step) (s : σ) :
    Accepts (object entry s) fun v s' =>
      ∃ inner ms, v = inner ++ ['\x7d'] ∧ Items Member true inner ms ∧ Through Step s ms s' := by
  constructor
  · intro cs rest s' hread
    rw [object, bind_eq_ok] at hread
    obtain ⟨⟨s₁, cs'⟩, hmembers, hread⟩ := hread
    obtain ⟨inner, ms, r, rfl, rfl, hinner, hthrough⟩ := members_sound h hmembers
    simp only [closeObject_brace, ok_bind, pure_eq_ok, Except.ok.injEq, Prod.mk.injEq] at hread
    obtain ⟨rfl, rfl⟩ := hread
    exact ⟨inner ++ ['\x7d'], by simp, inner, ms, rfl, hinner, hthrough⟩
  · rintro _ rest s' ⟨inner, ms, rfl, hinner, hthrough⟩ -
    have hfuel : inner.length < (inner ++ '\x7d' :: rest).length + 1 := by
      rw [List.length_append]
      omega
    rw [object, List.append_assoc, List.singleton_append,
      members_complete h hinner hthrough rest hfuel]
    simp

end

theorem membered_led : Led Membered := by
  rintro _ ms ⟨inner, rfl, -⟩
  exact ⟨'\x7b', inner ++ ['\x7d'], rfl, rfl, by decide⟩

theorem colon_eq_ok_iff {cs rest : List Char} :
    colon cs = .ok rest ↔ ∃ w, cs = w ++ ':' :: rest ∧ Spaces w := by
  constructor
  · intro h
    unfold colon at h
    split at h
    case h_1 => cases h
    case h_2 heq =>
      cases h
      exact skipSpace_eq heq
    case h_3 => cases h
  · rintro ⟨w, rfl, hw⟩
    rw [colon, skipSpace_append hw, skipSpace_cons rfl]
    rfl

theorem Accepts.after_colon {α : Type} {reader : List Char → Except Fault (α × List Char)}
    {Value : List Char → α → Prop} (h : Accepts reader (Spaced Value)) :
    Accepts (fun cs => colon cs >>= reader) fun a x => ∃ v, Assigned a v ∧ Value v x := by
  constructor
  · intro cs rest x hread
    rw [bind_eq_ok] at hread
    obtain ⟨cs', hcolon, hread⟩ := hread
    obtain ⟨w, rfl, hw⟩ := colon_eq_ok_iff.mp hcolon
    obtain ⟨_, rfl, w', v, rfl, hw', hv⟩ := h.sound hread
    exact ⟨w ++ ':' :: w' ++ v, by simp, v, ⟨w, w', rfl, hw, hw'⟩, hv⟩
  · rintro _ rest x ⟨v, ⟨w, w', rfl, hw, hw'⟩, hv⟩ hrest
    have hread := h.complete ⟨w', v, rfl, hw', hv⟩ hrest
    have hcolon : colon (w ++ ':' :: (w' ++ v ++ rest)) = .ok _ := colon_eq_ok_iff.mpr ⟨w, rfl, hw⟩
    simp only [List.append_assoc, List.cons_append] at hcolon hread ⊢
    rw [hcolon, ok_bind, hread]

end BundleInspect.Json
