import BundleInspect.Files.Resolve
import Mathlib.Data.Prod.Lex
import Mathlib.Logic.Relation
import Mathlib.Order.WellFounded

/-!
# Following a path

A path is followed step by step, one name at a time, and what it resolves to is where the steps end.
There is one way to go on at most. Links may lead in circles; a trail of so many links as are followed
ends all the same. `view_eq_some_iff`: what is seen at a path is what it resolves to, and
`unresolved_iff`: a path that resolves to nothing has come to a dead end or could never be followed.
-/

namespace BundleInspect.Files

/-! ## Steps -/

/-- The number of links so far, the location reached, and the names ahead. -/
structure Trail where
  links : Nat
  here : Location
  ahead : List Name

structure IsEntryName (name : Name) : Prop where
  notHere : isHere name = false
  notAbove : isAbove name = false
  fits : name.length ≤ longestName

/-- One name is followed. From where no directory is, none can be. -/
inductive Step (files : Files) : Trail → Trail → Prop where
  | stay {n : Nat} {here : Location} {name : Name} {more : List Name} :
    files.isDirectory here = true → isHere name = true →
      Step files ⟨n, here, name :: more⟩ ⟨n, here, more⟩
  | leave {n : Nat} {here : Location} {name : Name} {more : List Name} :
    files.isDirectory here = true → isAbove name = true →
      Step files ⟨n, here, name :: more⟩ ⟨n, here.dropLast, more⟩
  | follow {n : Nat} {here : Location} {name : Name} {more : List Name} (target : Path) :
    files.isDirectory here = true → IsEntryName name →
      files.entry? (here ++ [name]) = some (.link target) →
        Step files ⟨n, here, name :: more⟩ ⟨n + 1, origin here target, names target ++ more⟩
  | enter {n : Nat} {here : Location} {name : Name} {more : List Name} :
    files.isDirectory here = true → IsEntryName name →
      (∀ target, files.entry? (here ++ [name]) ≠ some (.link target)) →
        Step files ⟨n, here, name :: more⟩ ⟨n, here ++ [name], more⟩

abbrev Leads (files : Files) : Trail → Trail → Prop :=
  Relation.ReflTransGen (Step files)

def start (files : Files) (path : Path) : Trail :=
  ⟨0, origin files.workingDirectory path, names path⟩

/-- A path leads to an item through no more links than are followed. -/
inductive Resolves (files : Files) (path : Path) (item : Item) : Prop where
  | intro (n : Nat) (there : Location) :
    path ≠ [] → path.length ≤ longestPath → 0 ∉ path →
      Leads files (start files path) ⟨n, there, []⟩ → n ≤ mostLinks →
        files.entry? there = some (.item item) → Resolves files path item

/-- A trail that leads to no item. -/
inductive DeadEnd (files : Files) : Trail → Prop where
  | nothing {n : Nat} {here : Location} :
    (∀ item, files.entry? here ≠ some (.item item)) → DeadEnd files ⟨n, here, []⟩
  | noDirectory {n : Nat} {here : Location} {name : Name} {more : List Name} :
    files.isDirectory here = false → DeadEnd files ⟨n, here, name :: more⟩
  | longName {n : Nat} {here : Location} {name : Name} {more : List Name} :
    longestName < name.length → DeadEnd files ⟨n, here, name :: more⟩
  | manyLinks {n : Nat} {here : Location} {ahead : List Name} :
    mostLinks < n → DeadEnd files ⟨n, here, ahead⟩

inductive Unresolved (files : Files) (path : Path) : Prop where
  | empty : path = [] → Unresolved files path
  | long : longestPath < path.length → Unresolved files path
  | zero : 0 ∈ path → Unresolved files path
  | deadEnd (t : Trail) :
    Leads files (start files path) t → DeadEnd files t → Unresolved files path

/-- The steps from a path never end, whatever the number of links. -/
def Loops (files : Files) (path : Path) : Prop :=
  ∀ t, Leads files (start files path) t → ∃ t', Step files t t'

variable {files : Files} {t t' : Trail}

/-! ## One way on -/

theorem isHere_of_isAbove {name : Name} (h : isAbove name = true) : isHere name = false := by
  rw [isAbove, beq_iff_eq] at h
  subst h
  rfl

theorem not_isHere_of_long {name : Name} (h : longestName < name.length) : isHere name = false := by
  unfold longestName at h
  by_contra hhere
  simp only [isHere, Bool.not_eq_false, Bool.or_eq_true, beq_iff_eq] at hhere
  rcases hhere with rfl | rfl <;> simp at h

theorem not_isAbove_of_long {name : Name} (h : longestName < name.length) :
    isAbove name = false := by
  unfold longestName at h
  by_contra habove
  simp only [isAbove, Bool.not_eq_false, beq_iff_eq] at habove
  subst habove
  simp at h

theorem Step.unique {t₁ t₂ : Trail} (h₁ : Step files t t₁) (h₂ : Step files t t₂) : t₁ = t₂ := by
  cases h₁ with
  | stay _ hhere =>
    cases h₂ with
    | stay => rfl
    | leave _ habove => simp [isHere_of_isAbove habove] at hhere
    | follow _ _ hname => simp [hname.notHere] at hhere
    | enter _ hname => simp [hname.notHere] at hhere
  | leave _ habove =>
    cases h₂ with
    | stay _ hhere => simp [isHere_of_isAbove habove] at hhere
    | leave => rfl
    | follow _ _ hname => simp [hname.notAbove] at habove
    | enter _ hname => simp [hname.notAbove] at habove
  | follow target _ hname hentry =>
    cases h₂ with
    | stay _ hhere => simp [hname.notHere] at hhere
    | leave _ habove => simp [hname.notAbove] at habove
    | follow target' _ _ hentry' =>
      rw [hentry] at hentry'
      cases hentry'
      rfl
    | enter _ _ hnone => exact absurd hentry (hnone target)
  | enter _ hname hnone =>
    cases h₂ with
    | stay _ hhere => simp [hname.notHere] at hhere
    | leave _ habove => simp [hname.notAbove] at habove
    | follow target _ _ hentry => exact absurd hentry (hnone target)
    | enter => rfl

theorem Step.ahead_ne_nil (h : Step files t t') : t.ahead ≠ [] := by
  cases h <;> exact List.cons_ne_nil _ _

theorem Step.links_le (h : Step files t t') : t.links ≤ t'.links := by
  cases h with
  | follow => exact Nat.le_succ _
  | stay | leave | enter => exact le_refl _

theorem Leads.links_le (h : Leads files t t') : t.links ≤ t'.links := by
  induction h with
  | refl => exact le_refl _
  | tail _ hstep ih => exact ih.trans hstep.links_le

theorem Leads.eq_of_stuck (hstuck : ∀ t', ¬ Step files t t') (h : Leads files t t') : t' = t := by
  rcases Relation.ReflTransGen.cases_head h with heq | ⟨t₁, hstep, -⟩
  · exact heq.symm
  · exact absurd hstep (hstuck t₁)

theorem not_step_of_ahead (h : t.ahead = []) (t' : Trail) : ¬ Step files t t' :=
  fun hstep => hstep.ahead_ne_nil h

theorem Leads.total {t₁ t₂ : Trail} (h₁ : Leads files t t₁) (h₂ : Leads files t t₂) :
    Leads files t₁ t₂ ∨ Leads files t₂ t₁ :=
  Relation.ReflTransGen.total_of_right_unique (fun _ _ _ => Step.unique) h₁ h₂

/-! ## Where trails stop -/

theorem deadEnd_of_stuck {n : Nat} {here : Location} {name : Name} {more : List Name}
    (hstuck : ∀ t', ¬ Step files ⟨n, here, name :: more⟩ t') :
    DeadEnd files ⟨n, here, name :: more⟩ := by
  cases hdirectory : files.isDirectory here with
  | false => exact .noDirectory hdirectory
  | true =>
    refine .longName ?_
    by_contra hfits
    rw [not_lt] at hfits
    cases hhere : isHere name with
    | true => exact hstuck _ (.stay hdirectory hhere)
    | false =>
      cases habove : isAbove name with
      | true => exact hstuck _ (.leave hdirectory habove)
      | false =>
        by_cases hlink : ∃ target, files.entry? (here ++ [name]) = some (.link target)
        · obtain ⟨target, hentry⟩ := hlink
          exact hstuck _ (.follow target hdirectory ⟨hhere, habove, hfits⟩ hentry)
        · exact hstuck _ (.enter hdirectory ⟨hhere, habove, hfits⟩ (not_exists.mp hlink))

theorem not_step_of_noDirectory (h : files.isDirectory t.here = false) (t' : Trail) :
    ¬ Step files t t' := by
  intro hstep
  cases hstep with
  | stay hdirectory | leave hdirectory | follow _ hdirectory | enter hdirectory =>
    rw [h] at hdirectory
    cases hdirectory

theorem not_step_of_longName {n : Nat} {here : Location} {name : Name} {more : List Name}
    (h : longestName < name.length) (t' : Trail) : ¬ Step files ⟨n, here, name :: more⟩ t' := by
  intro hstep
  cases hstep with
  | stay _ hhere => simp [not_isHere_of_long h] at hhere
  | leave _ habove => simp [not_isAbove_of_long h] at habove
  | follow _ _ hname | enter _ hname => exact absurd hname.fits (not_le.mpr h)

/-! ## The end of every trail -/

/-- A link brings names, but is one link less. -/
def rank (t : Trail) : Nat ×ₗ Nat :=
  toLex (mostLinks - t.links, t.ahead.length)

theorem Step.rank_lt (h : Step files t t') (hlinks : t'.links ≤ mostLinks) : rank t' < rank t := by
  cases h with
  | stay | leave | enter => exact Prod.Lex.right _ (Nat.lt_succ_self _)
  | follow =>
    refine Prod.Lex.left _ _ ?_
    dsimp only at hlinks ⊢
    omega

theorem step_wellFounded (files : Files) :
    WellFounded fun later earlier => Step files earlier later ∧ later.links ≤ mostLinks :=
  (InvImage.wf rank wellFounded_lt).mono fun _ _ h => h.1.rank_lt h.2

theorem exists_end (files : Files) (t : Trail) :
    ∃ t', Leads files t t' ∧ ((t'.ahead = [] ∧ t'.links ≤ mostLinks) ∨ DeadEnd files t') := by
  induction t using (step_wellFounded files).induction with
  | h t ih =>
    by_cases hmany : mostLinks < t.links
    · exact ⟨t, .refl, .inr (.manyLinks hmany)⟩
    by_cases hstep : ∃ t', Step files t t'
    · obtain ⟨t', hstep⟩ := hstep
      by_cases hlinks : t'.links ≤ mostLinks
      · obtain ⟨t'', hleads, hend⟩ := ih t' ⟨hstep, hlinks⟩
        exact ⟨t'', .head hstep hleads, hend⟩
      · exact ⟨t', .single hstep, .inr (.manyLinks (not_le.mp hlinks))⟩
    · refine ⟨t, .refl, ?_⟩
      obtain ⟨n, here, ahead⟩ := t
      cases ahead with
      | nil => exact .inl ⟨rfl, not_lt.mp hmany⟩
      | cons name more => exact .inr (deadEnd_of_stuck (not_exists.mp hstep))

/-! ## What is seen -/

def Arrives (files : Files) (t : Trail) (there : Location) : Prop :=
  ∃ n ≤ mostLinks, Leads files t ⟨n, there, []⟩

theorem arrives_iff_of_step (h : Step files t t') {there : Location} :
    Arrives files t there ↔ Arrives files t' there := by
  constructor
  · rintro ⟨n, hlinks, hleads⟩
    refine ⟨n, hlinks, ?_⟩
    rcases Relation.ReflTransGen.cases_head hleads with rfl | ⟨t₁, hstep, hleads⟩
    · exact absurd rfl h.ahead_ne_nil
    · rwa [h.unique hstep]
  · rintro ⟨n, hlinks, hleads⟩
    exact ⟨n, hlinks, .head h hleads⟩

theorem not_arrives_of_stuck (hahead : t.ahead ≠ []) (hstuck : ∀ t', ¬ Step files t t')
    (there : Location) : ¬ Arrives files t there := by
  rintro ⟨n, -, hleads⟩
  rw [← Leads.eq_of_stuck hstuck hleads] at hahead
  exact hahead rfl

theorem arrives_nil_iff {n : Nat} {here there : Location} (hn : n ≤ mostLinks) :
    Arrives files ⟨n, here, []⟩ there ↔ here = there := by
  constructor
  · rintro ⟨m, -, hleads⟩
    have heq := Leads.eq_of_stuck (not_step_of_ahead rfl) hleads
    cases heq
    rfl
  · rintro rfl
    exact ⟨n, hn, .refl⟩

theorem steps_eq_some_iff {n : Nat} (hn : n ≤ mostLinks)
    {follow : Location → List Name → Option Location} {there : Location}
    (hfollow : ∀ here ahead,
      follow here ahead = some there ↔ Arrives files ⟨n + 1, here, ahead⟩ there)
    (here : Location) (ahead : List Name) :
    files.steps follow here ahead = some there ↔ Arrives files ⟨n, here, ahead⟩ there := by
  induction ahead generalizing here with
  | nil => rw [steps, Option.some_inj, arrives_nil_iff hn]
  | cons name more ih =>
    rw [steps]
    split_ifs with hdirectory hhere habove hlong
    · rw [ih, arrives_iff_of_step (.stay hdirectory hhere)]
    · rw [ih, arrives_iff_of_step (.leave hdirectory habove)]
    · have hstuck : ∀ t', ¬ Step files ⟨n, here, name :: more⟩ t' := not_step_of_longName hlong
      simp [not_arrives_of_stuck (List.cons_ne_nil _ _) hstuck]
    · have hname : IsEntryName name :=
        ⟨Bool.not_eq_true _ ▸ hhere, Bool.not_eq_true _ ▸ habove, not_lt.mp hlong⟩
      split
      · next target hentry =>
        rw [hfollow, arrives_iff_of_step (.follow target hdirectory hname hentry)]
      · next hnone => rw [ih, arrives_iff_of_step (.enter hdirectory hname hnone)]
    · have hstuck : ∀ t', ¬ Step files ⟨n, here, name :: more⟩ t' :=
        not_step_of_noDirectory (Bool.not_eq_true _ ▸ hdirectory)
      simp [not_arrives_of_stuck (List.cons_ne_nil _ _) hstuck]

theorem walk_eq_some_iff {n left : Nat} (h : n + left = mostLinks) {there : Location}
    (here : Location) (ahead : List Name) :
    files.walk left here ahead = some there ↔ Arrives files ⟨n, here, ahead⟩ there := by
  induction left generalizing n here ahead with
  | zero =>
    rw [walk]
    refine steps_eq_some_iff h.le (fun here ahead => ?_) here ahead
    constructor
    · rintro ⟨⟩
    · rintro ⟨m, hlinks, hleads⟩
      have hle : n + 1 ≤ m := Leads.links_le hleads
      omega
  | succ left ih =>
    rw [walk]
    exact steps_eq_some_iff (by omega) (ih (by omega)) here ahead

theorem isHopeless_eq_false_iff {path : Path} :
    isHopeless path = false ↔ path ≠ [] ∧ path.length ≤ longestPath ∧ 0 ∉ path := by
  simp [isHopeless, and_assoc]

theorem locate_eq_some_iff {path : Path} {there : Location} :
    files.locate path = some there ↔
      isHopeless path = false ∧ Arrives files (start files path) there := by
  unfold locate
  split_ifs with hhopeless
  · simp [hhopeless]
  · rw [walk_eq_some_iff (Nat.zero_add mostLinks)]
    simp [hhopeless, start]

theorem view_eq_some_iff_entry {path : Path} {item : Item} :
    files.view path = some item ↔
      ∃ there, files.locate path = some there ∧ files.entry? there = some (.item item) := by
  rw [← Option.bind_eq_some_iff]
  unfold view
  split
  · next item' hentry => simp [hentry]
  · next hnone => simpa using hnone item

theorem view_eq_some_iff {path : Path} {item : Item} :
    files.view path = some item ↔ Resolves files path item := by
  rw [view_eq_some_iff_entry]
  constructor
  · rintro ⟨there, hlocate, hentry⟩
    rw [locate_eq_some_iff, isHopeless_eq_false_iff] at hlocate
    obtain ⟨⟨hne, hlong, hzero⟩, n, hlinks, hleads⟩ := hlocate
    exact .intro n there hne hlong hzero hleads hlinks hentry
  · rintro ⟨n, there, hne, hlong, hzero, hleads, hlinks, hentry⟩
    refine ⟨there, ?_, hentry⟩
    rw [locate_eq_some_iff, isHopeless_eq_false_iff]
    exact ⟨⟨hne, hlong, hzero⟩, n, hlinks, hleads⟩

/-! ## What is not -/

theorem DeadEnd.not_leads {n : Nat} {there : Location} {item : Item} (h : DeadEnd files t)
    (hlinks : n ≤ mostLinks) (hentry : files.entry? there = some (.item item)) :
    ¬ Leads files t ⟨n, there, []⟩ := by
  intro hleads
  cases h with
  | nothing hnone =>
    have heq := Leads.eq_of_stuck (not_step_of_ahead rfl) hleads
    cases heq
    exact hnone item hentry
  | noDirectory hdirectory =>
    have heq := Leads.eq_of_stuck (not_step_of_noDirectory hdirectory) hleads
    cases heq
  | longName hlong =>
    have heq := Leads.eq_of_stuck (not_step_of_longName hlong) hleads
    cases heq
  | manyLinks hmany =>
    have hle := Leads.links_le hleads
    dsimp only at hle
    omega

theorem not_resolves_of_deadEnd {path : Path} (hleads : Leads files (start files path) t)
    (h : DeadEnd files t) (item : Item) : ¬ Resolves files path item := by
  rintro ⟨n, there, -, -, -, hend, hlinks, hentry⟩
  rcases Leads.total hleads hend with hto | hfrom
  · exact h.not_leads hlinks hentry hto
  · have heq := Leads.eq_of_stuck (not_step_of_ahead rfl) hfrom
    subst heq
    exact h.not_leads hlinks hentry .refl

theorem unresolved_iff {path : Path} :
    Unresolved files path ↔ ∀ item, ¬ Resolves files path item := by
  constructor
  · intro h item hresolves
    cases h with
    | deadEnd t hleads hend => exact not_resolves_of_deadEnd hleads hend item hresolves
    | empty hempty =>
      obtain ⟨n, there, hne⟩ := hresolves
      exact hne hempty
    | long hlong =>
      obtain ⟨n, there, -, hfits⟩ := hresolves
      exact absurd hfits (not_le.mpr hlong)
    | zero hzero =>
      obtain ⟨n, there, -, -, hnone⟩ := hresolves
      exact hnone hzero
  · intro h
    by_contra hnot
    have hne : path ≠ [] := fun hempty => hnot (.empty hempty)
    have hlong : path.length ≤ longestPath := not_lt.mp fun hlong => hnot (.long hlong)
    have hzero : 0 ∉ path := fun hzero => hnot (.zero hzero)
    obtain ⟨⟨n, here, ahead⟩, hleads, ⟨rfl, hlinks⟩ | hend⟩ := exists_end files (start files path)
    · refine hnot (.deadEnd _ hleads (.nothing fun item hentry => h item ?_))
      exact .intro n here hne hlong hzero hleads hlinks hentry
    · exact hnot (.deadEnd _ hleads hend)

theorem unresolved_of_loops {path : Path} (h : Loops files path) : Unresolved files path := by
  obtain ⟨t, hleads, ⟨hahead, -⟩ | hend⟩ := exists_end files (start files path)
  · obtain ⟨t', hstep⟩ := h t hleads
    exact absurd hstep (not_step_of_ahead hahead t')
  · exact .deadEnd t hleads hend

end BundleInspect.Files
