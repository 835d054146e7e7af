import BundleInspect.Proofs.DeviceSpec.Decoding
import BundleInspect.Proofs.Json.Trees

/-!
# What a tree says about a device spec

`decode_eq_ok_iff_describes`: whether a text that is an object is decoded, and to which spec, can be
told from the members of its tree. The order of the members does not matter, and neither do the
spaces that the tree leaves out.
-/

namespace BundleInspect.DeviceSpec

open Json

/-! ## Values -/

def TokenOf {α : Type} (Value : List Char → α → Prop) (t : Tree) (x : α) : Prop :=
  ∃ cs, t = .token cs ∧ Value cs x

def Supported (m : String × List Char) (b : Bool) : Prop :=
  m.1 = "supported" ∧ Truth m.2 b

def Supports (m : List Char × Tree) (b : Bool) : Prop :=
  Quoted m.1 "supported" ∧ TokenOf Truth m.2 b

/-- How a tree says what a field holds. -/
inductive Content.Says : Content → Tree → Prop where
  | token (c : Content) (cs : List Char) : c.Written cs → Says c (.token cs)
  | texts (items : List Tree) (xs : List String) :
    List.Forall₂ (TokenOf Quoted) items xs → Says (.texts xs) (.list items)
  | listed (items : List Tree) (bs : List Bool) :
    List.Forall₂ (TokenOf Truth) items bs → bs.length ≤ 1 →
      Says (.runtime (some ⟨bs.headD false⟩)) (.list items)
  | named (ms : List (List Char × Tree)) (bs : List Bool) :
    List.Forall₂ Supports ms bs → bs.length ≤ 1 →
      Says (.runtime (some ⟨bs.headD false⟩)) (.object ms)

/-! ## What is written and what is said -/

section
variable {α : Type} {Value : List Char → α → Prop}

theorem exists_items_of_listed {v : List Char} {xs : List α} (h : Listed Value v xs)
    (htoken : ∀ cs x, Value cs x → Token cs) :
    ∃ items, Spelled v (.list items) ∧ List.Forall₂ (TokenOf Value) items xs := by
  obtain ⟨inner, rfl, hinner⟩ := h
  have hitem (cs : List Char) (x z : α) (hx : Value cs x) (heq : x = z) :
      ∃ t, Levels 1 cs t ∧ TokenOf Value t z :=
    ⟨.token cs, .token cs (htoken cs x hx), cs, rfl, heq ▸ hx⟩
  obtain ⟨items, hitems, hxs⟩ := hinner.exists_forall₂ (List.forall₂_refl xs) hitem
  exact ⟨items, ⟨2, .list inner items hitems⟩, hxs⟩

theorem listed_of_spelled {v : List Char} {items : List Tree} {xs : List α}
    (h : Spelled v (.list items)) (hxs : List.Forall₂ (TokenOf Value) items xs) :
    Listed Value v xs := by
  cases h.layer with
  | list inner _ hitems =>
    have hitem (cs : List Char) (t : Tree) (x : α) (ht : Spelled cs t) (hx : TokenOf Value t x) :
        ∃ y, Value cs y ∧ y = x := by
      obtain ⟨cs', rfl, hx⟩ := hx
      obtain rfl := eq_of_spelled_token ht
      exact ⟨x, hx, rfl⟩
    obtain ⟨ys, hys, heq⟩ := hitems.exists_forall₂ hxs hitem
    rw [List.forall₂_eq_eq_eq] at heq
    rw [← heq]
    exact ⟨inner, rfl, hys⟩

end

theorem runtime_iff {v : List Char} {r : SdkRuntime} :
    Runtime v r ↔
      ∃ bs : List Bool, bs.length ≤ 1 ∧ r = ⟨bs.headD false⟩ ∧
        ((∃ raw, Membered v raw ∧ List.Forall₂ Supported raw bs) ∨ Listed Truth v bs) := by
  constructor
  · intro h
    cases h with
    | unnamed hms => exact ⟨[], by simp, rfl, .inl ⟨[], hms, .nil⟩⟩
    | named v b hms hb => exact ⟨[b], by simp, rfl, .inl ⟨_, hms, .cons ⟨rfl, hb⟩ .nil⟩⟩
    | listed bs hbs hlen => exact ⟨bs, hlen, rfl, .inr hbs⟩
  · rintro ⟨bs, hlen, rfl, ⟨raw, hms, hraw⟩ | hbs⟩
    · cases hraw with
      | nil => exact .unnamed v hms
      | cons hm hraw =>
        rename_i m b raw bs
        obtain rfl : bs = [] := by simpa using hlen
        cases hraw
        obtain ⟨name, v'⟩ := m
        obtain ⟨rfl, hb⟩ := hm
        exact .named v v' b hms hb
    · exact .listed v bs hbs hlen

theorem exists_tree_of_runtime {v : List Char} {r : SdkRuntime} (h : Runtime v r) :
    ∃ t, Spelled v t ∧ (Content.runtime (some r)).Says t := by
  obtain ⟨bs, hlen, rfl, ⟨raw, ⟨inner, rfl, hinner⟩, hraw⟩ | hbs⟩ := runtime_iff.mp h
  · have hvalue (key : List Char) (m : String × List Char) (b : Bool) (hkey : Quoted key m.1)
        (hm : Supported m b) : ∃ t, Levels 1 m.2 t ∧ Supports (key, t) b := by
      rw [hm.1] at hkey
      exact ⟨.token m.2, .token m.2 (token_of_truth hm.2), hkey, m.2, rfl, hm.2⟩
    obtain ⟨ms, hms, hsupports⟩ := exists_keyValues hinner hraw hvalue
    exact ⟨.object ms, ⟨2, .object inner ms hms⟩, .named ms bs hsupports hlen⟩
  · obtain ⟨items, hitems, htruths⟩ := exists_items_of_listed hbs fun _ _ => token_of_truth
    exact ⟨.list items, hitems, .listed items bs htruths hlen⟩

theorem runtime_of_object {v : List Char} {ms : List (List Char × Tree)} {bs : List Bool}
    (h : Spelled v (.object ms)) (hms : List.Forall₂ Supports ms bs) (hlen : bs.length ≤ 1) :
    Runtime v ⟨bs.headD false⟩ := by
  cases h.layer with
  | object inner _ hmembers =>
    have hvalue (m : List Char × Tree) (v : List Char) (b : Bool) (hv : Spelled v m.2)
        (hm : Supports m b) : ∃ name, Quoted m.1 name ∧ Supported (name, v) b := by
      obtain ⟨hkey, cs, htoken, hb⟩ := hm
      rw [htoken] at hv
      obtain rfl := eq_of_spelled_token hv
      exact ⟨_, hkey, rfl, hb⟩
    obtain ⟨raw, hinner, hraw⟩ := exists_members hmembers hms hvalue
    exact runtime_iff.mpr ⟨bs, hlen, rfl, .inl ⟨raw, ⟨inner, rfl, hinner⟩, hraw⟩⟩

theorem exists_tree_of_written {c : Content} {v : List Char} (h : c.Written v) :
    ∃ t, Spelled v t ∧ c.Says t := by
  have hsays (htoken : Token v) : ∃ t, Spelled v t ∧ c.Says t :=
    ⟨.token v, spelled_token htoken, .token c v h⟩
  cases c with
  | texts xs =>
    obtain ⟨items, hitems, hxs⟩ := exists_items_of_listed h
      fun _ _ hx => .inl (stringToken_of_quoted hx)
    exact ⟨.list items, hitems, .texts items xs hxs⟩
  | text x => exact hsays (.inl (stringToken_of_quoted h))
  | unsigned n => exact hsays (token_of_integral h)
  | signed n => exact hsays (token_of_integral h)
  | runtime r =>
    cases h with
    | null => exact hsays token_null
    | value _ _ hv => exact exists_tree_of_runtime hv
  | size n =>
    cases h with
    | number _ hv => exact hsays (token_of_integral hv)
    | text _ _ hv => exact hsays (.inl (stringToken_of_quoted hv))
  | tier t =>
    cases h with
    | null => exact hsays token_null
    | value _ _ hv => exact hsays (token_of_integral hv)
  | country x =>
    cases h with
    | null => exact hsays token_null
    | value _ _ hv => exact hsays (.inl (stringToken_of_quoted hv))

/-- What a tree says does not hang on the spaces it is written with. -/
theorem says_iff_written {c : Content} {v : List Char} {t : Tree} (h : Spelled v t) :
    c.Says t ↔ c.Written v := by
  constructor
  · intro hsays
    cases hsays with
    | token _ cs hcs =>
      obtain rfl := eq_of_spelled_token h
      exact hcs
    | texts items xs hxs => exact listed_of_spelled h hxs
    | listed items bs hbs hlen => exact .value v _ (.listed v bs (listed_of_spelled h hbs) hlen)
    | named ms bs hbs hlen => exact .value v _ (runtime_of_object h hbs hlen)
  · intro hwritten
    obtain ⟨t', ht', hsays⟩ := exists_tree_of_written hwritten
    rw [h.unique ht']
    exact hsays

/-! ## Documents -/

def Field.NamedBy (f : Field) (key : List Char) : Prop :=
  ∃ name ∈ f.spellings, Quoted key name

def Describe (s : DeviceSpec) (m : List Char × Tree) (f : Field) : Prop :=
  f.NamedBy m.1 ∧ (f.content s).Says m.2

/-- Fields that no member names hold their defaults. -/
def Describes (ms : List (List Char × Tree)) (s : DeviceSpec) : Prop :=
  ∃ fs, List.Forall₂ (Describe s) ms fs ∧ fs.Nodup ∧ ∀ f ∉ fs, f.content s = f.content empty

def Reads (s : DeviceSpec) (m : String × List Char) (f : Field) : Prop :=
  m.1 ∈ f.spellings ∧ (f.content s).Written m.2

theorem forall₂_reads_iff {s : DeviceSpec} {raw : List (String × List Char)} {fs : List Field} :
    List.Forall₂ (Reads s) raw fs ↔
      Names (raw.map Prod.fst) fs ∧
        List.Forall₂ (fun f v => (f.content s).Written v) fs (raw.map Prod.snd) := by
  rw [Names, List.forall₂_map_left_iff, List.forall₂_map_right_iff]
  constructor
  · intro h
    exact ⟨h.imp fun _ _ hm => hm.1, (h.imp fun _ _ hm => hm.2).flip⟩
  · rintro ⟨hnames, hwritten⟩
    exact List.Forall₂.mp (fun _ _ hname hv => ⟨hname, hv⟩) hnames hwritten.flip

theorem object_of_describes {cs : List Char} {ms : List (List Char × Tree)} {s : DeviceSpec}
    (h : Spelled cs (.object ms)) (hms : Describes ms s) : Document cs s := by
  obtain ⟨fs, hdescribe, hnodup, hother⟩ := hms
  cases h.layer with
  | object inner _ hmembers =>
    have hvalue (m : List Char × Tree) (v : List Char) (f : Field) (hv : Spelled v m.2)
        (hm : Describe s m f) : ∃ name, Quoted m.1 name ∧ Reads s (name, v) f := by
      obtain ⟨⟨name, hname, hkey⟩, hsays⟩ := hm
      exact ⟨name, hkey, hname, (says_iff_written hv).mp hsays⟩
    obtain ⟨raw, hinner, hraw⟩ := exists_members hmembers hdescribe hvalue
    obtain ⟨hnames, hwritten⟩ := forall₂_reads_iff.mp hraw
    exact .object _ raw fs s ⟨inner, rfl, hinner⟩ hnames hnodup ⟨hwritten, hother⟩

theorem describes_of_document {cs cs' r r' : List Char} {ms : List (List Char × Tree)}
    {s : DeviceSpec} (h : Spelled cs (.object ms)) (hs : Document cs' s) (hr : Delimited r)
    (hr' : Delimited r') (heq : cs ++ r = cs' ++ r') : Describes ms s := by
  cases hs with
  | list vs _ hvs =>
    obtain ⟨inner, rfl, -⟩ := hvs
    cases h.layer with
    | object => cases (List.cons.inj heq).1
  | object raw fs _ hraw hnames hnodup hfills =>
    obtain ⟨inner, rfl, hinner⟩ := hraw
    have hvalue (key : List Char) (m : String × List Char) (f : Field) (hkey : Quoted key m.1)
        (hm : Reads s m f) : ∃ t, Spelled m.2 t ∧ Describe s (key, t) f := by
      obtain ⟨t, ht, hsays⟩ := exists_tree_of_written hm.2
      exact ⟨t, ht, ⟨m.1, hm.1, hkey⟩, hsays⟩
    obtain ⟨ms', hms', hdescribe⟩ :=
      exists_keyValues hinner (forall₂_reads_iff.mpr ⟨hnames, hfills.1⟩) hvalue
    obtain ⟨-, htree⟩ := layer_unambiguous spelled_unambiguous spelled_opens spelled_opens h.layer
      (.object inner ms' hms') hr hr' heq
    cases htree
    exact ⟨fs, hdescribe, hnodup, hfills.2⟩

theorem solid_of_document {cs : List Char} {s : DeviceSpec} (h : Document cs s) (rest : List Char) :
    Solid (cs ++ rest) := by
  cases h with
  | object ms _ _ hms =>
    obtain ⟨inner, rfl, -⟩ := hms
    exact solid_cons rfl _
  | list vs _ hvs =>
    obtain ⟨inner, rfl, -⟩ := hvs
    exact solid_cons rfl _

theorem decode_eq_ok_iff_of_tree {text : String} {t : Tree} {s : DeviceSpec} {P : Prop}
    (h : TreeText text t) (hof : ∀ {cs}, Spelled cs t → P → Document cs s)
    (hto : ∀ {cs cs' r r'}, Spelled cs t → Document cs' s → Delimited r → Delimited r' →
      cs ++ r = cs' ++ r' → P) : decode text = .ok s ↔ P := by
  obtain ⟨w, cs, w', htext, hw, hw', hcs⟩ := h
  rw [decode_eq_ok_iff, document_eq_ok_iff, htext]
  constructor
  · rintro ⟨w₁, d, w₁', heq, hw₁, hw₁', hd⟩
    rw [List.append_assoc, List.append_assoc] at heq
    obtain ⟨-, hmore⟩ := hw.unique hw₁ (spelled_opens.solid hcs w') (solid_of_document hd w₁') heq
    exact hto hcs hd hw'.delimited hw₁'.delimited hmore
  · intro hp
    exact ⟨w, cs, w', rfl, hw, hw', hof hcs hp⟩

theorem decode_eq_ok_iff_describes {text : String} {ms : List (List Char × Tree)}
    (h : ObjectText text ms) (s : DeviceSpec) : decode text = .ok s ↔ Describes ms s :=
  decode_eq_ok_iff_of_tree h object_of_describes describes_of_document

end BundleInspect.DeviceSpec
