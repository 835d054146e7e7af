import BundleInspect.Proofs.DeviceSpec.Rewriting

/-!
# Documents with a place for one value

`decode_fill_iff`: once a document is decoded, any other value may be put where one of its fields
has its own. The new document is decoded if and only if the value is one of the field, and then no
other field changes.
-/

namespace BundleInspect.DeviceSpec

open Json

/-! ## Lists of values -/

def Holds (s : DeviceSpec) (t : Tree) (f : Field) : Prop :=
  (f.content s).Says t

/-- The first fields in order; those after them hold their defaults. -/
def Enumerates (items : List Tree) (s : DeviceSpec) : Prop :=
  ∃ fs, List.Forall₂ (Holds s) items fs ∧ fs <+: Field.all ∧ ∀ f ∉ fs, f.content s = f.content empty

theorem list_of_enumerates {cs : List Char} {items : List Tree} {s : DeviceSpec}
    (h : Spelled cs (.list items)) (hitems : Enumerates items s) : Document cs s := by
  obtain ⟨fs, hholds, hfs, hother⟩ := hitems
  cases h.layer with
  | list inner _ hinner =>
    have hitem (v : List Char) (t : Tree) (f : Field) (hv : Spelled v t) (ht : Holds s t f) :
        ∃ v', v = v' ∧ (f.content s).Written v' :=
      ⟨v, rfl, (says_iff_written hv).mp ht⟩
    obtain ⟨vs, hvs, hwritten⟩ := hinner.exists_forall₂ hholds hitem
    have hlen : vs.length = fs.length := hwritten.length_eq
    have htake : Field.all.take vs.length = fs := by
      rw [hlen]
      exact (List.prefix_iff_eq_take.mp hfs).symm
    apply Document.list _ vs s ⟨inner, rfl, hvs⟩
    · rw [hlen]
      exact hfs.length_le
    · rw [htake]
      exact ⟨hwritten.flip, hother⟩

theorem enumerates_of_document {cs cs' r r' : List Char} {items : List Tree} {s : DeviceSpec}
    (h : Spelled cs (.list items)) (hs : Document cs' s) (hr : Delimited r) (hr' : Delimited r')
    (heq : cs ++ r = cs' ++ r') : Enumerates items s := by
  cases hs with
  | object ms _ _ hms =>
    obtain ⟨inner, rfl, -⟩ := hms
    cases h.layer with
    | list => cases (List.cons.inj heq).1
  | list vs _ hvs hlen hfills =>
    obtain ⟨inner, rfl, hinner⟩ := hvs
    have hvalue (v v' : List Char) (f : Field) (hv : v = v') (hf : (f.content s).Written v') :
        ∃ t, Spelled v t ∧ Holds s t f :=
      hv ▸ exists_tree_of_written hf
    obtain ⟨items', hitems', hholds⟩ := hinner.exists_forall₂ hfills.1.flip hvalue
    obtain ⟨-, htree⟩ := layer_unambiguous spelled_unambiguous spelled_opens spelled_opens h.layer
      (.list inner items' hitems') hr hr' heq
    cases htree
    exact ⟨_, hholds, List.take_prefix _ _, hfills.2⟩

/-! ## Documents of either kind -/

/-- What a document says of a spec. A token is no document. -/
def Tells : Tree → DeviceSpec → Prop
  | .token _, _ => False
  | .list items, s => Enumerates items s
  | .object ms, s => Describes ms s

theorem not_document_of_token {cs cs' r r' v : List Char} {s : DeviceSpec}
    (h : Spelled cs (.token v)) (hs : Document cs' s) : cs ++ r ≠ cs' ++ r' := by
  cases h.layer with
  | token _ htoken =>
    cases hs with
    | object ms _ _ hms =>
      obtain ⟨inner, rfl, -⟩ := hms
      exact htoken.append_ne (by decide) rfl
    | list vs _ hvs =>
      obtain ⟨inner, rfl, -⟩ := hvs
      exact htoken.append_ne (by decide) rfl

theorem decode_eq_ok_iff_tells {text : String} {t : Tree} {s : DeviceSpec} (h : TreeText text t) :
    decode text = .ok s ↔ Tells t s := by
  cases t with
  | token v =>
    apply decode_eq_ok_iff_of_tree h
    · exact fun _ hfalse => hfalse.elim
    · exact fun hcs hs _ _ heq => not_document_of_token hcs hs heq
  | list items => exact decode_eq_ok_iff_of_tree h list_of_enumerates enumerates_of_document
  | object ms => exact decode_eq_ok_iff_describes h s

/-! ## Places -/

/-- A document without the value of a field. -/
inductive Place (f : Field) where
  | member (before after : List (List Char × Tree)) (key : List Char) (hkey : f.NamedBy key)
  | element (before after : List Tree) (hf : Field.all[before.length]? = some f)

def Place.fill {f : Field} (t : Tree) : Place f → Tree
  | .member before after key _ => .object (before ++ (key, t) :: after)
  | .element before after _ => .list (before ++ t :: after)

section
variable {α : Type} {R R' : α → Field → Prop} {xs ys : List α} {x : α} {fs : List Field}
variable {f : Field}

theorem forall₂_of_notMem (h : List.Forall₂ R xs fs) (hf : f ∉ fs)
    (himp : ∀ z g, g ≠ f → R z g → R' z g) : List.Forall₂ R' xs fs := by
  induction h with
  | nil => exact .nil
  | cons hx _ ih =>
    rw [List.mem_cons, not_or] at hf
    exact .cons (himp _ _ (Ne.symm hf.1) hx) (ih hf.2)

theorem exists_middle (h : List.Forall₂ R (xs ++ x :: ys) fs) (hnodup : fs.Nodup) :
    ∃ f, fs[xs.length]? = some f ∧ R x f ∧
      ∀ (R' : α → Field → Prop) x', R' x' f → (∀ z g, g ≠ f → R z g → R' z g) →
        List.Forall₂ R' (xs ++ x' :: ys) fs := by
  induction xs generalizing fs with
  | nil =>
    cases h with
    | cons hx hys =>
      have hf := (List.nodup_cons.mp hnodup).1
      exact ⟨_, rfl, hx, fun R' x' hx' himp => .cons hx' (forall₂_of_notMem hys hf himp)⟩
  | cons z xs ih =>
    cases h with
    | cons hz hxs =>
      obtain ⟨hg, hnodup⟩ := List.nodup_cons.mp hnodup
      obtain ⟨f, hf, hx, hall⟩ := ih hxs hnodup
      have hmem : f ∈ _ := List.mem_of_getElem? hf
      refine ⟨f, hf, hx, ?_⟩
      intro R' x' hx' himp
      refine .cons (himp z _ ?_ hz) (hall R' x' hx' himp)
      rintro rfl
      exact hg hmem

end

section
variable {f : Field} {s s' : DeviceSpec} {t z : Tree} {text base : String}

theorem tells_fill {p : Place f} (h : Tells (p.fill z) s) :
    (f.content s).Says z ∧
      ∀ s' t, (f.content s').Says t → (∀ g, g ≠ f → g.content s' = g.content s) →
        Tells (p.fill t) s' := by
  -- Fields that nothing is said of are other fields.
  have hrest (fs : List Field) (s' : DeviceSpec) (hf : f ∈ fs)
      (hother : ∀ g ∉ fs, g.content s = g.content empty)
      (hsame : ∀ g, g ≠ f → g.content s' = g.content s) :
      ∀ g ∉ fs, g.content s' = g.content empty := by
    intro g hg
    have hne : g ≠ f := fun heq => hg (heq ▸ hf)
    rw [hsame g hne, hother g hg]
  cases p with
  | member before after key hkey =>
    obtain ⟨fs, hfs, hnodup, hother⟩ := h
    obtain ⟨g, hg, ⟨hnamed, hsaid⟩, hall⟩ := exists_middle hfs hnodup
    obtain rfl := hkey.unique hnamed
    refine ⟨hsaid, ?_⟩
    intro s' t ht hsame
    refine ⟨fs, ?_, hnodup, hrest fs s' (List.mem_of_getElem? hg) hother hsame⟩
    apply hall (Describe s') (key, t) ⟨hkey, ht⟩
    rintro m g hne ⟨hm, hsaid⟩
    refine ⟨hm, ?_⟩
    rw [hsame g hne]
    exact hsaid
  | element before after hf =>
    obtain ⟨fs, hfs, hall, hother⟩ := h
    obtain ⟨g, hg, hsaid, hmiddle⟩ := exists_middle hfs (Field.nodup_all.sublist hall.sublist)
    obtain rfl : f = g := by
      obtain ⟨hlt, rfl⟩ := List.getElem?_eq_some_iff.mp hg
      rw [List.prefix_iff_getElem?.mp hall _ hlt] at hf
      exact (Option.some.inj hf).symm
    refine ⟨hsaid, ?_⟩
    intro s' t ht hsame
    refine ⟨fs, ?_, hall, hrest fs s' (List.mem_of_getElem? hg) hother hsame⟩
    apply hmiddle (Holds s') t ht
    intro z g hne hz
    unfold Holds
    rw [hsame g hne]
    exact hz

theorem decode_fill_iff {p : Place f} (hbase : TreeText base (p.fill z)) (hs : decode base = .ok s)
    (htext : TreeText text (p.fill t)) :
    decode text = .ok s' ↔ (f.content s').Says t ∧ f.put s' s = s' := by
  obtain ⟨-, hfill⟩ := tells_fill ((decode_eq_ok_iff_tells hbase).mp hs)
  have hput (s' : DeviceSpec) (ht : (f.content s').Says t) : decode text = .ok (f.put s' s) := by
    apply (decode_eq_ok_iff_tells htext).mpr
    apply hfill
    · rw [Field.content_put, if_pos rfl]
      exact ht
    · intro g hg
      rw [Field.content_put, if_neg hg]
  constructor
  · intro h
    obtain ⟨hsaid, -⟩ := tells_fill ((decode_eq_ok_iff_tells htext).mp h)
    have heq := hput s' hsaid
    rw [h] at heq
    exact ⟨hsaid, (Except.ok.inj heq).symm⟩
  · rintro ⟨hsaid, heq⟩
    have hdecode := hput s' hsaid
    rwa [heq] at hdecode

end

end BundleInspect.DeviceSpec
