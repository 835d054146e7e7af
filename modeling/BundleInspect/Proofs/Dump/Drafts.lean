import BundleInspect.Dump.Draft
import Mathlib.Data.List.Induction

/-!
# The last write to a field counts

A setting writes one field of a draft. `build_lastWritten`: what is built from settings holds in each
field what the last setting for it wrote, and is refused if the bundle or the target was never set;
the order of settings for different fields does not matter.
-/

namespace BundleInspect.Dump

open Log Files

/-! ## Fields -/

inductive Field where
  | bundle
  | target
  | xpath
  | resourceId
  | resourceName
  | printValues
  deriving DecidableEq

abbrev Field.Value : Field → Type
  | .bundle => Path
  | .target => Target
  | .xpath => String
  | .resourceId => Int32
  | .resourceName => String
  | .printValues => Bool

abbrev Write :=
  (f : Field) × f.Value

/-- A word for a resource is an ID if it is an integer literal. -/
def Setting.write : Setting → Write
  | .bundle path => ⟨.bundle, path⟩
  | .target t => ⟨.target, t⟩
  | .xpath expression => ⟨.xpath, expression⟩
  | .resourceId value => ⟨.resourceId, value⟩
  | .resourceName name => ⟨.resourceName, name⟩
  | .resource raw =>
    match Resource.literal? raw with
    | some value => ⟨.resourceId, Int32.ofInt value⟩
    | none => ⟨.resourceName, raw⟩
  | .printValues value => ⟨.printValues, value⟩

def Setting.field (s : Setting) : Field :=
  s.write.1

namespace Draft

def content (d : Draft) : (f : Field) → Option f.Value
  | .bundle => d.bundle
  | .target => d.target
  | .xpath => d.xpath
  | .resourceId => d.resourceId
  | .resourceName => d.resourceName
  | .printValues => d.printValues

def put (d : Draft) : Write → Draft
  | ⟨.bundle, path⟩ => { d with bundle := some path }
  | ⟨.target, target⟩ => { d with target := some target }
  | ⟨.xpath, expression⟩ => { d with xpath := some expression }
  | ⟨.resourceId, value⟩ => { d with resourceId := some value }
  | ⟨.resourceName, name⟩ => { d with resourceName := some name }
  | ⟨.printValues, value⟩ => { d with printValues := some value }

theorem set_eq_put (d : Draft) (s : Setting) : d.set s = d.put s.write := by
  cases s with
  | resource raw =>
    simp only [set, Resource.Selector.parse, Setting.write]
    cases Resource.literal? raw <;> rfl
  | bundle | target | xpath | resourceId | resourceName | printValues => rfl

theorem content_put_same (d : Draft) (f : Field) (v : f.Value) :
    (d.put ⟨f, v⟩).content f = some v := by
  cases f <;> rfl

theorem content_put_other (d : Draft) {f g : Field} (v : f.Value) (h : f ≠ g) :
    (d.put ⟨f, v⟩).content g = d.content g := by
  cases f <;> cases g <;> first | rfl | exact absurd rfl h

theorem put_comm (d : Draft) {w w' : Write} (h : w.1 ≠ w'.1) :
    (d.put w).put w' = (d.put w').put w := by
  obtain ⟨f, v⟩ := w
  obtain ⟨g, v'⟩ := w'
  cases f <;> cases g <;> first | rfl | exact absurd rfl h

end Draft

def Command.content (c : Command) : (f : Field) → Option f.Value
  | .bundle => some c.bundle
  | .target => some c.target
  | .xpath => c.xpath
  | .resourceId => c.resourceId
  | .resourceName => c.resourceName
  | .printValues => c.printValues

/-! ## Sequences of settings -/

def Sets (f : Field) (settings : List Setting) : Prop :=
  ∃ s ∈ settings, s.field = f

/-- What the last setting for a field wrote, if there is one. -/
inductive LastWritten (f : Field) : List Setting → Option f.Value → Prop where
  | never (settings : List Setting) :
    (∀ s ∈ settings, s.field ≠ f) → LastWritten f settings none
  | last (before : List Setting) (s : Setting) (after : List Setting) (v : f.Value) :
    s.write = ⟨f, v⟩ → (∀ t ∈ after, t.field ≠ f) → LastWritten f (before ++ s :: after) (some v)

/-- Neighbours that write different fields change places, any number of times. -/
inductive Reordered : List Setting → List Setting → Prop where
  | same (settings : List Setting) : Reordered settings settings
  | swap (before : List Setting) (s t : Setting) (after : List Setting) :
    s.field ≠ t.field → Reordered (before ++ s :: t :: after) (before ++ t :: s :: after)
  | trans {settings settings' settings'' : List Setting} :
    Reordered settings settings' → Reordered settings' settings'' → Reordered settings settings''

theorem LastWritten.concat {f : Field} {settings : List Setting} {v : Option f.Value}
    (h : LastWritten f settings v) {s : Setting} (hs : s.field ≠ f) :
    LastWritten f (settings ++ [s]) v := by
  cases h with
  | never _ hnever =>
    refine .never _ fun t ht => ?_
    rcases List.mem_append.mp ht with ht | ht
    · exact hnever t ht
    · rw [List.mem_singleton.mp ht]
      exact hs
  | last before t after v hwrite hafter =>
    rw [List.append_assoc, List.cons_append]
    refine .last before t _ v hwrite fun u hu => ?_
    rcases List.mem_append.mp hu with hu | hu
    · exact hafter u hu
    · rw [List.mem_singleton.mp hu]
      exact hs

theorem LastWritten.isSome_iff {f : Field} {settings : List Setting} {v : Option f.Value}
    (h : LastWritten f settings v) : v.isSome = true ↔ Sets f settings := by
  cases h with
  | never _ hnever =>
    simp only [Option.isSome_none, Bool.false_eq_true, false_iff]
    rintro ⟨s, hs, hfield⟩
    exact hnever s hs hfield
  | last before s after v hwrite hafter =>
    simp only [Option.isSome_some, true_iff]
    exact ⟨s, by simp, by rw [Setting.field, hwrite]⟩

namespace Draft

theorem ofSettings_concat (settings : List Setting) (s : Setting) :
    ofSettings (settings ++ [s]) = (ofSettings settings).put s.write := by
  rw [ofSettings, List.foldl_append, List.foldl_cons, List.foldl_nil, set_eq_put]
  rfl

theorem lastWritten_ofSettings (f : Field) (settings : List Setting) :
    LastWritten f settings ((ofSettings settings).content f) := by
  -- From the end: the last setting writes the field, or leaves what the others wrote there.
  induction settings using List.reverseRecOn with
  | nil => cases f <;> exact .never [] (by simp)
  | append_singleton settings s ih =>
    rw [ofSettings_concat]
    cases hwrite : s.write with
    | mk g v =>
      by_cases hfield : g = f
      · subst hfield
        rw [content_put_same]
        exact .last settings s [] v hwrite (by simp)
      · rw [content_put_other _ _ hfield]
        exact ih.concat (by rw [Setting.field, hwrite]; exact hfield)

theorem ofSettings_of_reordered {settings settings' : List Setting}
    (h : Reordered settings settings') : ofSettings settings = ofSettings settings' := by
  induction h with
  | same => rfl
  | swap before s t after hfield =>
    simp only [ofSettings, List.foldl_append, List.foldl_cons, set_eq_put]
    rw [put_comm _ hfield]
  | trans _ _ ih ih' => exact ih.trans ih'

/-! ## Building -/

theorem build_eq_ok {d : Draft} {c : Command} (h : d.build = .ok c) (f : Field) :
    c.content f = d.content f := by
  unfold build at h
  split at h
  case h_1 | h_2 => cases h
  case h_3 bundle target hbundle htarget =>
    cases h
    cases f with
    | bundle => exact hbundle.symm
    | target => exact htarget.symm
    | xpath | resourceId | resourceName | printValues => rfl

end Draft

theorem complaint?_eq_idAndName_iff {c : Command} :
    c.complaint? = some .idAndName ↔ c.resourceId.isSome = true ∧ c.resourceName.isSome = true := by
  rw [← Bool.and_eq_true]
  unfold Command.complaint?
  -- The rule about IDs and names comes first, so no other rule can hide it.
  cases c.resourceId.isSome && c.resourceName.isSome with
  | true => simp
  | false =>
    simp only [Bool.false_eq_true, ↓reduceIte, iff_false]
    split_ifs <;> simp

theorem validate_of_readable {view : View} {c : Command} {item : Item}
    (hview : view c.bundle = some item) (hitem : Item.isReadable item = true) :
    (c.validate view).result =
      match c.complaint? with
      | some complaint => .error (.invalidCommand complaint)
      | none => .ok () := by
  have hcheck : (checkReadable view c.bundle).result = .ok () := by
    simp [checkReadable, hview, hitem]
  simp only [Command.validate, Stage.result_bind, hcheck, Except.bind]
  cases c.complaint? <;> rfl

section
variable {settings : List Setting}

theorem isSome_content_iff (f : Field) :
    ((Draft.ofSettings settings).content f).isSome = true ↔ Sets f settings :=
  (Draft.lastWritten_ofSettings f settings).isSome_iff

theorem build_iff (settings : List Setting) :
    ((∃ c, (Draft.ofSettings settings).build = .ok c) ↔
      Sets .bundle settings ∧ Sets .target settings) ∧
    ((Draft.ofSettings settings).build = .error (.invalidCommand .noBundle) ↔
      ¬ Sets .bundle settings) ∧
    ((Draft.ofSettings settings).build = .error .missingDumpTarget ↔
      Sets .bundle settings ∧ ¬ Sets .target settings) := by
  rw [← isSome_content_iff, ← isSome_content_iff]
  simp only [Draft.content, Draft.build]
  cases (Draft.ofSettings settings).bundle <;> cases (Draft.ofSettings settings).target <;> simp

theorem content_of_build {c : Command} (h : (Draft.ofSettings settings).build = .ok c) (f : Field) :
    LastWritten f settings (c.content f) := by
  rw [Draft.build_eq_ok h]
  exact Draft.lastWritten_ofSettings f settings

theorem pickOne_iff {view : View} {c : Command} {item : Item}
    (h : (Draft.ofSettings settings).build = .ok c) (hview : view c.bundle = some item)
    (hitem : Item.isReadable item = true) :
    (c.validate view).result = .error (.invalidCommand .idAndName) ↔
      Sets .resourceId settings ∧ Sets .resourceName settings := by
  have hcomplaint : (c.validate view).result = .error (.invalidCommand .idAndName) ↔
      c.complaint? = some .idAndName := by
    rw [validate_of_readable hview hitem]
    cases c.complaint? <;> simp
  rw [hcomplaint, complaint?_eq_idAndName_iff,
    ← (content_of_build h .resourceId).isSome_iff, ← (content_of_build h .resourceName).isSome_iff]
  rfl

end

/-- A command holds in every field what was written there last. -/
theorem build_lastWritten (settings : List Setting) :
    ((∃ c, (Draft.ofSettings settings).build = .ok c) ↔
      Sets .bundle settings ∧ Sets .target settings) ∧
    ((Draft.ofSettings settings).build = .error (.invalidCommand .noBundle) ↔
      ¬ Sets .bundle settings) ∧
    ((Draft.ofSettings settings).build = .error .missingDumpTarget ↔
      Sets .bundle settings ∧ ¬ Sets .target settings) ∧
    (∀ c, (Draft.ofSettings settings).build = .ok c → ∀ f, LastWritten f settings (c.content f)) ∧
    (∀ settings', Reordered settings settings' →
      (Draft.ofSettings settings').build = (Draft.ofSettings settings).build) ∧
    (∀ view c item, (Draft.ofSettings settings).build = .ok c → view c.bundle = some item →
      Item.isReadable item = true →
      ((c.validate view).result = .error (.invalidCommand .idAndName) ↔
        Sets .resourceId settings ∧ Sets .resourceName settings)) := by
  obtain ⟨hbuilt, hnoBundle, hnoTarget⟩ := build_iff settings
  refine ⟨hbuilt, hnoBundle, hnoTarget, fun c h f => content_of_build h f, ?_,
    fun view c item h hview hitem => pickOne_iff h hview hitem⟩
  intro settings' hreordered
  rw [Draft.ofSettings_of_reordered hreordered]

/-- A word that is read as an ID does not take back a name. -/
example :
    let d := Draft.ofSettings [.resourceName "string/app", .resource "0x10"]
    d.content .resourceId = some 16 ∧ d.content .resourceName = some "string/app" := by
  decide

end BundleInspect.Dump
