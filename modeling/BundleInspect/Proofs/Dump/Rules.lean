import BundleInspect.Proofs.Dump.Dispatch
import BundleInspect.Proofs.Dump.Drafts
import BundleInspect.Proofs.Files.Checks

/-!
# The rules of a dump

A command is checked against five rules in a fixed order. `validate_first_broken`: the check ends
with the error of the first rule that the command breaks, and well if it breaks none.
-/

namespace BundleInspect.Dump

open Log Files

/-! ## Rules -/

/-- In the order in which they are checked. -/
inductive Rule where
  | bundle
  | oneResource
  | expression
  | resource
  | values

def Rule.rank : Rule → Nat
  | .bundle => 0
  | .oneResource => 1
  | .expression => 2
  | .resource => 3
  | .values => 4

/-- A rule is broken whatever becomes of the other rules. -/
inductive Breaks (view : View) (c : Command) : Rule → Error → Prop where
  | bundle (e : Error) : Unreadable view c.bundle e → Breaks view c .bundle e
  | oneResource :
    c.resourceId ≠ none → c.resourceName ≠ none →
      Breaks view c .oneResource (.invalidCommand .idAndName)
  | onResources :
    c.xpath ≠ none → c.target = .resources →
      Breaks view c .expression (.invalidCommand .xpathOnResources)
  | onConfig :
    c.xpath ≠ none → c.target = .config →
      Breaks view c .expression (.invalidCommand .xpathOffManifest)
  | resource :
    c.resourceId ≠ none ∨ c.resourceName ≠ none → c.target ≠ .resources →
      Breaks view c .resource (.invalidCommand .resourceOffResources)
  | values :
    c.printValues ≠ none → c.target ≠ .resources →
      Breaks view c .values (.invalidCommand .valuesOffResources)

structure Obeys (view : View) (c : Command) : Prop where
  bundle : ∃ item, view c.bundle = some item ∧ Item.isReadable item = true
  oneResource : c.resourceId = none ∨ c.resourceName = none
  expression : c.xpath ≠ none → c.target = .manifest
  resource : c.resourceId ≠ none ∨ c.resourceName ≠ none → c.target = .resources
  values : c.printValues ≠ none → c.target = .resources

/-- The command without what it holds in a field that may be left out. -/
def Command.clear (c : Command) : Field → Command
  | .bundle | .target => c
  | .xpath => { c with xpath := none }
  | .resourceId => { c with resourceId := none }
  | .resourceName => { c with resourceName := none }
  | .printValues => { c with printValues := none }

variable {view : View} {c c' : Command}

theorem obeys_iff : Obeys view c ↔ ∀ rule e, ¬ Breaks view c rule e := by
  constructor
  · intro h rule e hbreaks
    cases hbreaks with
    | bundle e he => exact isReadable_iff_not_unreadable.mp h.bundle e he
    | oneResource hid hname => exact h.oneResource.elim hid hname
    | onResources hx htarget => simp [h.expression hx] at htarget
    | onConfig hx htarget => simp [h.expression hx] at htarget
    | resource hresource htarget => exact htarget (h.resource hresource)
    | values hvalues htarget => exact htarget (h.values hvalues)
  · intro h
    constructor
    · exact isReadable_iff_not_unreadable.mpr fun e he => h _ _ (.bundle e he)
    · by_contra hboth
      rw [not_or] at hboth
      exact h _ _ (.oneResource hboth.1 hboth.2)
    · intro hx
      cases htarget : c.target with
      | manifest => rfl
      | resources => exact absurd (.onResources hx htarget) (h _ _)
      | config => exact absurd (.onConfig hx htarget) (h _ _)
    · intro hresource
      by_contra htarget
      exact h _ _ (.resource hresource htarget)
    · intro hvalues
      by_contra htarget
      exact h _ _ (.values hvalues htarget)

/-! ## Checking -/

theorem complaint?_eq (c : Command) :
    c.complaint? =
      if c.resourceId ≠ none ∧ c.resourceName ≠ none then some .idAndName
      else if c.xpath ≠ none ∧ c.target = .resources then some .xpathOnResources
      else if c.xpath ≠ none ∧ c.target = .config then some .xpathOffManifest
      else if (c.resourceId ≠ none ∨ c.resourceName ≠ none) ∧ c.target ≠ .resources then
        some .resourceOffResources
      else if c.printValues ≠ none ∧ c.target ≠ .resources then some .valuesOffResources
      else none := by
  simp [Command.complaint?, Option.isSome_iff_ne_none]

theorem complaint?_of_first {rule : Rule} {e : Error} (hrule : rule ≠ .bundle)
    (h : First Rule.rank (Breaks view c) rule e) :
    ∃ complaint, c.complaint? = some complaint ∧ e = .invalidCommand complaint := by
  obtain ⟨hbreaks, hearlier⟩ := h
  -- The guards that stand before the one of the rule let the command through.
  have hone (hlt : 1 < rule.rank) : ¬ (c.resourceId ≠ none ∧ c.resourceName ≠ none) :=
    fun ⟨hid, hname⟩ => hearlier .oneResource _ hlt (.oneResource hid hname)
  have hresources (hlt : 2 < rule.rank) : ¬ (c.xpath ≠ none ∧ c.target = .resources) :=
    fun ⟨hx, htarget⟩ => hearlier .expression _ hlt (.onResources hx htarget)
  have hconfig (hlt : 2 < rule.rank) : ¬ (c.xpath ≠ none ∧ c.target = .config) :=
    fun ⟨hx, htarget⟩ => hearlier .expression _ hlt (.onConfig hx htarget)
  have hresource (hlt : 3 < rule.rank) :
      ¬ ((c.resourceId ≠ none ∨ c.resourceName ≠ none) ∧ c.target ≠ .resources) :=
    fun ⟨hset, htarget⟩ => hearlier .resource _ hlt (.resource hset htarget)
  rw [complaint?_eq]
  cases hbreaks with
  | bundle => exact absurd rfl hrule
  | oneResource hid hname =>
    rw [if_pos ⟨hid, hname⟩]
    exact ⟨_, rfl, rfl⟩
  | onResources hx htarget =>
    rw [if_neg (hone (by decide)), if_pos ⟨hx, htarget⟩]
    exact ⟨_, rfl, rfl⟩
  | onConfig hx htarget =>
    rw [if_neg (hone (by decide)), if_neg (by simp [htarget]), if_pos ⟨hx, htarget⟩]
    exact ⟨_, rfl, rfl⟩
  | resource hset htarget =>
    rw [if_neg (hone (by decide)), if_neg (hresources (by decide)), if_neg (hconfig (by decide)),
      if_pos ⟨hset, htarget⟩]
    exact ⟨_, rfl, rfl⟩
  | values hset htarget =>
    rw [if_neg (hone (by decide)), if_neg (hresources (by decide)), if_neg (hconfig (by decide)),
      if_neg (hresource (by decide)), if_pos ⟨hset, htarget⟩]
    exact ⟨_, rfl, rfl⟩

theorem complaint?_of_obeys (h : Obeys view c) : c.complaint? = none := by
  have hnever := obeys_iff.mp h
  rw [complaint?_eq, if_neg, if_neg, if_neg, if_neg, if_neg]
  · exact fun ⟨hset, htarget⟩ => hnever _ _ (.values hset htarget)
  · exact fun ⟨hset, htarget⟩ => hnever _ _ (.resource hset htarget)
  · exact fun ⟨hx, htarget⟩ => hnever _ _ (.onConfig hx htarget)
  · exact fun ⟨hx, htarget⟩ => hnever _ _ (.onResources hx htarget)
  · exact fun ⟨hid, hname⟩ => hnever _ _ (.oneResource hid hname)

theorem validate_of_obeys (h : Obeys view c) : (c.validate view).result = .ok () := by
  obtain ⟨item, hview, hitem⟩ := h.bundle
  rw [validate_of_readable hview hitem, complaint?_of_obeys h]

theorem validate_of_first {rule : Rule} {e : Error} (h : First Rule.rank (Breaks view c) rule e) :
    (c.validate view).result = .error e := by
  by_cases hrule : rule = .bundle
  · subst hrule
    cases h.1 with
    | bundle _ he =>
      simp only [Command.validate, Stage.result_bind, checkReadable_eq_error_iff.mpr he]
      rfl
  · have hbundle (e' : Error) : ¬ Unreadable view c.bundle e' := by
      intro he'
      apply h.2 .bundle e' _ (.bundle e' he')
      cases rule with
      | bundle => exact absurd rfl hrule
      | oneResource | expression | resource | values => simp [Rule.rank]
    obtain ⟨item, hview, hitem⟩ := isReadable_iff_not_unreadable.mpr hbundle
    obtain ⟨complaint, hcomplaint, rfl⟩ := complaint?_of_first hrule h
    rw [validate_of_readable hview hitem, hcomplaint]

theorem validate_eq_error_iff (e : Error) :
    (c.validate view).result = .error e ↔ ∃ rule, First Rule.rank (Breaks view c) rule e := by
  apply eq_error_iff_first fun _ _ => validate_of_first
  intro hnever
  exact ⟨(), validate_of_obeys (obeys_iff.mpr hnever)⟩

theorem validate_eq_ok_iff : (c.validate view).result = .ok () ↔ Obeys view c := by
  constructor
  · intro hok
    exact obeys_iff.mpr (not_fails_of_ok (fun _ _ => validate_of_first) hok)
  · exact validate_of_obeys

/-! ## Fewer fields -/

theorem Obeys.fewer (h : Obeys view c) (hbundle : c'.bundle = c.bundle)
    (htarget : c'.target = c.target) (hfewer : ∀ f, c'.content f ≠ none → c.content f ≠ none) :
    Obeys view c' where
  bundle := by rw [hbundle]; exact h.bundle
  oneResource := by
    by_contra hboth
    rw [not_or] at hboth
    exact h.oneResource.elim (hfewer .resourceId hboth.1) (hfewer .resourceName hboth.2)
  expression := by
    intro hx
    rw [htarget]
    exact h.expression (hfewer .xpath hx)
  resource := by
    intro hset
    rw [htarget]
    exact h.resource (hset.imp (hfewer .resourceId) (hfewer .resourceName))
  values := by
    intro hset
    rw [htarget]
    exact h.values (hfewer .printValues hset)

theorem obeys_clear (h : Obeys view c) (f : Field) : Obeys view (c.clear f) := by
  apply h.fewer
  · cases f <;> rfl
  · cases f <;> rfl
  · intro g
    cases f <;> cases g <;> simp [Command.clear, Command.content]

/-! ## Executing what was checked -/

theorem request_eq_error {e : Error} (h : c.request.result = .error e) :
    c.target = .resources ∧ ∃ name, c.resourceName = some name ∧ e = .invalidResourceName name := by
  unfold Command.request at h
  split at h
  case h_1 | h_2 => cases h
  case h_3 htarget =>
    refine ⟨htarget, ?_⟩
    simp only [Stage.result_bind, Stage.result_ofExcept] at h
    cases hcompile : Resource.Predicate.compile c.resourceId c.resourceName with
    | ok p =>
      rw [hcompile] at h
      cases h
    | error e' =>
      rw [hcompile] at h
      cases h
      exact (Resource.Predicate.compile_eq_error hcompile).2

theorem execute_error_kind {backend : DumpBackend} {sink : Sink} {request : DumpRequest} {e : Error}
    (hprepare : (c.prepare view).result = .ok request)
    (h : (c.execute view backend sink).result = .error e) : e.kind = .execution := by
  rw [(execute_of_prepared hprepare).2] at h
  split at h
  · cases h
    rfl
  · cases hflush : ((backend request).play sink).sink.flush.2 with
    | ok =>
      rw [hflush] at h
      cases h
    | error message =>
      rw [hflush] at h
      cases h
      rfl

theorem execute_eq_error_of_obeys {backend : DumpBackend} {sink : Sink} {e : Error}
    (hvalid : Obeys view c) (h : (c.execute view backend sink).result = .error e)
    (hkind : e.kind = .invalidInput) :
    c.target = .resources ∧ ∃ name, c.resourceName = some name ∧ e = .invalidResourceName name := by
  have hresult : (c.prepare view).result = _ := prepare_result c
  rw [validate_of_obeys hvalid] at hresult
  cases hrequest : c.request.result with
  | ok request =>
    rw [hrequest] at hresult
    rw [execute_error_kind hresult h] at hkind
    cases hkind
  | error e' =>
    rw [hrequest] at hresult
    rw [Command.execute, bind_stage_error _ _ _ _ hresult] at h
    cases h
    exact request_eq_error hrequest

/-- The first rule that is broken decides. -/
theorem validate_first_broken (view : View) (c : Command) :
    (∀ e, (c.validate view).result = .error e ↔
      ∃ rule, First Rule.rank (Breaks view c) rule e) ∧
    ((c.validate view).result = .ok () ↔ Obeys view c) ∧
    ((c.validate view).result = .ok () →
      ∀ f, ((c.clear f).validate view).result = .ok ()) ∧
    ((c.validate view).result = .ok () → ∀ backend sink e,
      (c.execute view backend sink).result = .error e → e.kind = .invalidInput →
      c.target = .resources ∧
        ∃ name, c.resourceName = some name ∧ e = .invalidResourceName name) := by
  refine ⟨validate_eq_error_iff, validate_eq_ok_iff, ?_, ?_⟩
  · intro hvalid f
    rw [validate_eq_ok_iff] at hvalid ⊢
    exact obeys_clear hvalid f
  · intro hvalid backend sink e herror hkind
    exact execute_eq_error_of_obeys (validate_eq_ok_iff.mp hvalid) herror hkind

end BundleInspect.Dump
