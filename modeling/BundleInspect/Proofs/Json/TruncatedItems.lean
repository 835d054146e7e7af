import BundleInspect.Proofs.Json.Truncation

/-!
# Lists and objects that are cut short

`list_starves` and `object_starves`: wherever a list or an object is cut, all items before the cut
are read, and the document is told to end too early.
-/

namespace BundleInspect.Json

/-! ## Between items -/

theorem Gap.cut {first : Bool} {p q : List Char} (h : Gap first (p ++ q)) :
    Spaces p ∨ first = false ∧ ∃ w w', p = w ++ ',' :: w' ∧ Spaces w ∧ Spaces w' := by
  generalize heq : p ++ q = gap at h
  cases h with
  | first _ hw =>
    rw [← heq] at hw
    exact .inl hw.of_append
  | comma w w' hw hw' =>
    rcases cut_append heq with ⟨r, -, rfl⟩ | ⟨r, rfl, hr⟩
    · exact .inl hw.of_append
    · rcases cut_cons hr with rfl | ⟨r, rfl, rfl⟩
      · left
        rw [List.append_nil]
        exact hw
      · exact .inr ⟨rfl, w, r, rfl, hw, hw'.of_append⟩

/-- It is told to end too early wherever no item has begun. -/
structure Waits (next : Bool → List Char → Except Fault (Bool × List Char)) : Prop where
  spaces : ∀ {w}, Spaces w → ∀ first, Starved (next first w)
  comma : ∀ {w w'}, Spaces w → Spaces w' → Starved (next false (w ++ ',' :: w'))

theorem nextElement_waits : Waits nextElement where
  spaces := by
    intro w hw first
    unfold nextElement
    rw [skipSpace_of_spaces hw]
    exact starved_stopBefore rfl []
  comma := by
    intro w w' hw hw'
    have hnext : nextElement false (w ++ ',' :: w') = stopBefore .endInValue [] := by
      rw [nextElement, skipSpace_append hw, skipSpace_cons rfl]
      simp [skipSpace_of_spaces hw']
    rw [hnext]
    exact starved_stopBefore rfl []

theorem nextKey_waits : Waits nextKey where
  spaces := by
    intro w hw first
    unfold nextKey
    rw [skipSpace_of_spaces hw]
    exact starved_stopBefore rfl []
  comma := by
    intro w w' hw hw'
    have hnext : nextKey false (w ++ ',' :: w') = stopBefore .endInValue [] := by
      rw [nextKey, skipSpace_append hw, skipSpace_cons rfl]
      simp [skipSpace_of_spaces hw']
    rw [hnext]
    exact starved_stopBefore rfl []

section
variable {next : Bool → List Char → Except Fault (Bool × List Char)}
variable {first : Bool} {gap v p q : List Char}

theorem Waits.in_gap (h : Waits next) (hgap : Gap first (p ++ q)) : Starved (next first p) := by
  rcases hgap.cut with hp | ⟨rfl, w, w', rfl, hw, hw'⟩
  · exact h.spaces hp first
  · exact h.comma hw hw'

theorem Waits.cut (h : Waits next) (hgap : Gap first gap) (heq : p ++ q = gap ++ v) :
    Starved (next first p) ∨ ∃ c r, p = gap ++ c :: r ∧ c :: r ++ q = v := by
  rcases cut_append heq with ⟨r, -, rfl⟩ | ⟨r, rfl, hr⟩
  · exact .inl (h.in_gap hgap)
  · cases r with
    | nil =>
      left
      rw [← List.append_nil gap] at hgap
      rw [List.append_nil]
      exact h.in_gap hgap
    | cons c r => exact .inr ⟨c, r, rfl, hr⟩

end

theorem starved_closeList {w : List Char} (hw : Spaces w) : Starved (closeList w) := by
  unfold closeList
  rw [skipSpace_of_spaces hw]
  exact starved_stopBefore rfl []

theorem starved_colon {w : List Char} (hw : Spaces w) : Starved (colon w) := by
  unfold colon
  rw [skipSpace_of_spaces hw]
  exact starved_stopBefore rfl []

theorem nextElement_cut {α : Type} {Value : List Char → α → Prop} (hled : Led Value)
    {first : Bool} {gap v more p q : List Char} {x : α} (hgap : Gap first gap) (hv : Value v x)
    (heq : p ++ q = gap ++ (v ++ more)) :
    Starved (nextElement first p) ∨ ∃ r, r ++ q = v ++ more ∧ nextElement first p = .ok (true, r) := by
  rcases nextElement_waits.cut hgap heq with hstarved | ⟨c, r, rfl, hr⟩
  · exact .inl hstarved
  · obtain ⟨c', cs, rfl, hspace, hclose⟩ := hled v x hv
    obtain ⟨rfl, -⟩ := List.cons.inj hr
    exact .inr ⟨_, hr, nextElement_of_gap hgap hspace hclose r⟩

theorem nextKey_cut {first : Bool} {gap v p q : List Char} (hgap : Gap first gap)
    (heq : p ++ q = gap ++ '"' :: v) :
    Starved (nextKey first p) ∨ ∃ r, nextKey first p = .ok (true, r) ∧ r ++ q = v := by
  rcases nextKey_waits.cut hgap heq with hstarved | ⟨c, r, rfl, hr⟩
  · exact .inl hstarved
  · obtain ⟨rfl, hv⟩ := List.cons.inj hr
    exact .inr ⟨r, nextKey_of_gap hgap r, hv⟩

/-! ## Lists -/

section
variable {α : Type} {item : List Char → Except Fault (α × List Char)}
variable {Item : List Char → α → Prop}

theorem starved_elements_nil (fuel : Nat) (first : Bool) : Starved (elements item fuel first []) := by
  cases fuel with
  | zero => exact starved_stopAt rfl []
  | succ fuel => exact (nextElement_waits.spaces spaces_nil first).bind _

theorem starved_elements (h : Accepts item (Spaced Item)) (hcut : Exhausts item (Spaced Item))
    (hled : Led Item) {first : Bool} {inner p q : List Char} {xs : List α}
    (hinner : Items Item first inner xs) (heq : p ++ q = inner ++ [']']) (hq : q ≠ [])
    (fuel : Nat) : Starved (elements item fuel first p) := by
  induction hinner generalizing p fuel with
  | done first w hw =>
    cases fuel with
    | zero => exact starved_stopAt rfl p
    | succ fuel =>
      obtain ⟨r, rfl⟩ := cut_concat heq hq
      exact (nextElement_waits.spaces hw.of_append first).bind _
  | next first gap v more x xs hgap hv hxs ih =>
    cases fuel with
    | zero => exact starved_stopAt rfl p
    | succ fuel =>
      rw [List.append_assoc, List.append_assoc] at heq
      rw [elements]
      rcases nextElement_cut hled hgap hv heq with hstarved | ⟨r, hr, hnext⟩
      · exact hstarved.bind _
      · rw [hnext, ok_bind]
        dsimp only
        -- The item is cut, or it is read and what follows is.
        rcases cut_append hr with ⟨r', hr', rfl⟩ | ⟨r', rfl, hr'⟩
        · apply (hcut (spaced_of_value hv) hr').bind
          exact fun x => (starved_elements_nil fuel false).bind _
        · have hends := (hxs.ends (ends_bracket [])).of_cut hr'
          rw [h.complete (spaced_of_value hv) hends, ok_bind]
          exact (ih hr' fuel).bind _

theorem list_starves (h : Accepts item (Spaced Item)) (hcut : Exhausts item (Spaced Item))
    (hled : Led Item) :
    Starves (list item) fun v xs => ∃ inner, v = inner ++ [']'] ∧ Items Item true inner xs := by
  rintro p q xs ⟨inner, heq, hinner⟩ hq
  exact (starved_elements h hcut hled hinner heq hq _).bind _

end

theorem texts_starves : Starves texts (Spaced (Listed Quoted)) := by
  intro p q xs h hq
  unfold texts
  rcases start_cut listed_led h with hstarved | ⟨c, cs, hstart, inner, heq, hinner⟩
  · exact hstarved.bind _
  · obtain ⟨rfl, hcut⟩ := List.cons.inj heq
    rw [hstart, ok_bind]
    exact list_starves text_accepts text_starves.exhausts quoted_led ⟨inner, hcut, hinner⟩ hq

/-! ## Objects -/

section
variable {σ : Type} {entry : σ → String → List Char → Except Fault (σ × List Char)}
variable {Step : σ → String × List Char → σ → Prop}

/-- Of an entry that is cut short nothing is left. -/
def TakesCut (entry : σ → String → List Char → Except Fault (σ × List Char))
    (Step : σ → String × List Char → σ → Prop) : Prop :=
  ∀ s key, Exhausts (entry s key) fun a s' => ∃ v, Assigned a v ∧ Step s (key, v) s'

theorem starved_members_nil (fuel : Nat) (first : Bool) (s : σ) :
    Starved (members entry fuel first s []) := by
  cases fuel with
  | zero => exact starved_stopAt rfl []
  | succ fuel => exact (nextKey_waits.spaces spaces_nil first).bind _

theorem starved_members (h : Takes entry Step) (hcut : TakesCut entry Step) {first : Bool}
    {inner p q : List Char} {ms : List (String × List Char)}
    (hinner : Items Member first inner ms) {s s' : σ} (hthrough : Through Step s ms s')
    (heq : p ++ q = inner ++ ['\x7d']) (hq : q ≠ []) (fuel : Nat) :
    Starved (members entry fuel first s p) := by
  induction hinner generalizing p s fuel with
  | done first w hw =>
    cases fuel with
    | zero => exact starved_stopAt rfl p
    | succ fuel =>
      obtain ⟨r, rfl⟩ := cut_concat heq hq
      exact (nextKey_waits.spaces hw.of_append first).bind _
  | next first gap m more x ms hgap hm hms ih =>
    cases fuel with
    | zero => exact starved_stopAt rfl p
    | succ fuel =>
      obtain ⟨_, a, rfl, ⟨body, rfl, hbody⟩, ha⟩ := hm
      cases hthrough with
      | cons _ s₁ _ _ _ hstep hthrough =>
        have hkey : p ++ q = gap ++ '"' :: ((body ++ ['"']) ++ (a ++ (more ++ ['\x7d']))) := by
          simpa using heq
        rw [members]
        rcases nextKey_cut hgap hkey with hstarved | ⟨r, hnext, hr⟩
        · exact hstarved.bind _
        · rw [hnext, ok_bind]
          dsimp only
          -- The key is cut, or it is read; then so is the value, or what follows is.
          rcases cut_append hr with ⟨r', hr', heq'⟩ | ⟨r', rfl, hr'⟩
          · exact (string_starves ⟨body, heq'.symm, hbody⟩ hr').bind _
          · have hstring : string (body ++ ['"'] ++ r') = .ok (x.1, r') :=
              string_eq_ok_iff.mpr ⟨body, by simp, hbody⟩
            rw [hstring, ok_bind]
            dsimp only
            rcases cut_append hr' with ⟨t, ht, rfl⟩ | ⟨t, rfl, ht⟩
            · apply (hcut s x.1 ⟨x.2, ha, hstep⟩ ht).bind
              exact fun s₁ => starved_members_nil fuel false s₁
            · have hends := (hms.ends (ends_brace [])).of_cut ht
              rw [(h s x.1).complete ⟨x.2, ha, hstep⟩ hends, ok_bind]
              exact ih hthrough ht fuel

theorem object_starves (h : Takes entry Step) (hcut : TakesCut entry Step) (s : σ) :
    Starves (object entry s) fun v s' =>
      ∃ inner ms, v = inner ++ ['\x7d'] ∧ Items Member true inner ms ∧ Through Step s ms s' := by
  rintro p q s' ⟨inner, ms, heq, hinner, hthrough⟩ hq
  exact (starved_members h hcut hinner hthrough heq hq _).bind _

end

theorem Exhausts.after_colon {α : Type} {reader : List Char → Except Fault (α × List Char)}
    {Value : List Char → α → Prop} (h : Exhausts reader (Spaced Value)) :
    Exhausts (fun cs => colon cs >>= reader) fun a x => ∃ v, Assigned a v ∧ Value v x := by
  rintro p q x ⟨v, ⟨w, w', heq, hw, hw'⟩, hv⟩ hq
  have hcolon : p ++ q = w ++ ':' :: (w' ++ v) := by simpa using heq
  rcases cut_append hcolon with ⟨r, -, rfl⟩ | ⟨r, rfl, hr⟩
  · exact .inl ((starved_colon hw.of_append).bind _)
  · rcases cut_cons hr with rfl | ⟨r, rfl, hvalue⟩
    · rw [List.append_nil]
      exact .inl ((starved_colon hw).bind _)
    · have hread : colon (w ++ ':' :: r) = .ok r := colon_eq_ok_iff.mpr ⟨w, rfl, hw⟩
      dsimp only
      rw [hread, ok_bind]
      exact h ⟨w', v, hvalue, hw', hv⟩ hq

end BundleInspect.Json
