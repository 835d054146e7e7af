import BundleInspect.Proofs.DeviceSpec.Meanings
import BundleInspect.Proofs.Json.Printing
import Mathlib.Data.List.Perm.Basic
import Mathlib.Logic.Relation

/-!
# Other ways to write a device spec

The members of a device spec may change places, their keys may be the other names of the same fields,
and members with default values may come and go. `decode_eq_ok_iff_of_rewrites`: none of that, and no
change of spaces, makes a difference to decoding.
-/

namespace BundleInspect.DeviceSpec

open Json

/-! ## Changes -/

def Content.blanks : Content → List Tree
  | .texts _ => [.list []]
  | .text _ => [.token ['"', '"']]
  | .unsigned _ | .signed _ => [.token ['0']]
  | .size _ => [.token ['0'], .token ['"', '0', '"']]
  | .runtime _ | .tier _ | .country _ => [.token null]

def Field.blanks (f : Field) : List Tree :=
  (f.content empty).blanks

/-- A member is added or removed where no other names its field. -/
inductive Change : List (List Char × Tree) → List (List Char × Tree) → Prop where
  | permute (ms ms' : List (List Char × Tree)) : ms.Perm ms' → Change ms ms'
  | rename (before after : List (List Char × Tree)) (key key' : List Char) (t : Tree) (f : Field) :
    f.NamedBy key → f.NamedBy key' →
      Change (before ++ (key, t) :: after) (before ++ (key', t) :: after)
  | add (before after : List (List Char × Tree)) (key : List Char) (t : Tree) (f : Field) :
    f.NamedBy key → t ∈ f.blanks → (∀ m ∈ before ++ after, ¬ f.NamedBy m.1) →
      Change (before ++ after) (before ++ (key, t) :: after)
  | remove (before after : List (List Char × Tree)) (key : List Char) (t : Tree) (f : Field) :
    f.NamedBy key → t ∈ f.blanks → (∀ m ∈ before ++ after, ¬ f.NamedBy m.1) →
      Change (before ++ (key, t) :: after) (before ++ after)

/-- Other spaces, or one change of the members. -/
inductive Rewrites : String → String → Prop where
  | respace (a b : String) (ms : List (List Char × Tree)) :
    ObjectText a ms → ObjectText b ms → Rewrites a b
  | change (a b : String) (ms ms' : List (List Char × Tree)) :
    ObjectText a ms → ObjectText b ms' → Change ms ms' → Rewrites a b

/-! ## Fields and their defaults -/

theorem Field.NamedBy.unique {f g : Field} {key : List Char} (hf : f.NamedBy key)
    (hg : g.NamedBy key) : f = g := by
  obtain ⟨name, hname, hkey⟩ := hf
  obtain ⟨name', hname', hkey'⟩ := hg
  obtain rfl := quoted_unique hkey hkey'
  rw [← Option.some.injEq, ← Field.ofKey?_eq_some_iff.mpr hname,
    ← Field.ofKey?_eq_some_iff.mpr hname']

theorem Field.content_eq_of_written {f : Field} {s s' : DeviceSpec} {v : List Char}
    (h : (f.content s).Written v) (h' : (f.content s').Written v) :
    f.content s = f.content s' := by
  have hreplaces (t : DeviceSpec) (ht : (f.content t).Written v) :
      f.Replaces empty v (f.put t empty) := by
    constructor
    · rw [Field.content_put, if_pos rfl]
      exact ht
    · intro g hg
      rw [Field.content_put, if_neg hg]
  have heq := (f.read_accepts leaveObject empty).unique
    ⟨[], v, rfl, spaces_nil, hreplaces s h⟩ ⟨[], v, rfl, spaces_nil, hreplaces s' h'⟩
  have hcontent := congrArg f.content heq
  rwa [Field.content_put, Field.content_put, if_pos rfl, if_pos rfl] at hcontent

theorem integral_zero : Integral ['0'] 0 :=
  .natural ['0'] 0 ⟨by decide, fun _ => rfl⟩

theorem quoted_zero : Quoted ['"', '0', '"'] "0" :=
  ⟨['0'], rfl, .cons ['0'] [] '0' [] (.plain '0' (by decide) (by decide) (by decide)) .nil⟩

theorem quoted_empty : Quoted ['"', '"'] "" :=
  ⟨[], rfl, .nil⟩

theorem size_of_zero : Size ['0'] 0 ∧ Size ['"', '0', '"'] 0 := by
  have hblanks : Blanks [] := by simp [Blanks]
  have hnumeric : Numeric ['0'] 0 := ⟨[], ['0'], [], rfl, hblanks, hblanks, .plain ['0'] 0 (by decide)⟩
  exact ⟨.number ['0'] 0 integral_zero, .text _ "0" 0 quoted_zero hnumeric⟩

theorem exists_spelled_of_mem_blanks {c : Content} {t : Tree} (h : t ∈ c.blanks) :
    ∃ v, Spelled v t := by
  have hzero := spelled_token (token_of_integral integral_zero)
  have hquoted {v : List Char} {text : String} (hv : Quoted v text) : Spelled v (.token v) :=
    spelled_token (.inl (stringToken_of_quoted hv))
  cases c <;> simp only [Content.blanks, List.mem_cons, List.not_mem_nil, or_false] at h
  case texts => exact ⟨['[', ']'], 1, h ▸ .list [] [] (.done true [] spaces_nil)⟩
  case text => exact ⟨_, h ▸ hquoted quoted_empty⟩
  case unsigned | signed => exact ⟨_, h ▸ hzero⟩
  case size =>
    rcases h with rfl | rfl
    · exact ⟨_, hzero⟩
    · exact ⟨_, hquoted quoted_zero⟩
  case runtime | tier | country => exact ⟨_, h ▸ spelled_token token_null⟩

theorem says_of_mem_blanks {f : Field} {t : Tree} (h : t ∈ f.blanks) :
    (f.content empty).Says t := by
  cases f with
  | supportedAbis | supportedLocales | deviceFeatures | glExtensions | deviceGroups =>
    rw [List.mem_singleton.mp h]
    exact .texts [] [] .nil
  | codename | buildBrand | buildDevice | socManufacturer | socModel =>
    rw [List.mem_singleton.mp h]
    exact .token _ _ quoted_empty
  | screenDensity | sdkVersion =>
    rw [List.mem_singleton.mp h]
    exact .token _ _ integral_zero
  | ram =>
    rcases List.mem_pair.mp h with rfl | rfl
    · exact .token _ _ size_of_zero.1
    · exact .token _ _ size_of_zero.2
  | sdkRuntime | deviceTier | countrySet =>
    rw [List.mem_singleton.mp h]
    exact .token _ _ .null

theorem says_blank_iff {f : Field} {t : Tree} (h : t ∈ f.blanks) {s : DeviceSpec} :
    (f.content s).Says t ↔ f.content s = f.content empty := by
  constructor
  · intro hsays
    obtain ⟨v, hv⟩ := exists_spelled_of_mem_blanks h
    exact Field.content_eq_of_written ((says_iff_written hv).mp hsays)
      ((says_iff_written hv).mp (says_of_mem_blanks h))
  · intro heq
    rw [heq]
    exact says_of_mem_blanks h

/-! ## Members -/

section
variable {s : DeviceSpec} {ms ms' before after : List (List Char × Tree)} {m : List Char × Tree}

theorem Describes.perm (h : Describes ms s) (hperm : ms.Perm ms') : Describes ms' s := by
  obtain ⟨fs, hfs, hnodup, hother⟩ := h
  obtain ⟨fs', hfs', hperm'⟩ := List.perm_comp_forall₂ hperm.symm hfs
  refine ⟨fs', hfs', hperm'.nodup_iff.mpr hnodup, ?_⟩
  intro f hf
  exact hother f (fun hmem => hf (hperm'.mem_iff.mpr hmem))

theorem describes_iff_of_perm (h : ms.Perm ms') : Describes ms s ↔ Describes ms' s :=
  ⟨fun hms => hms.perm h, fun hms => hms.perm h.symm⟩

theorem describes_middle_iff :
    Describes (before ++ m :: after) s ↔ Describes (m :: (before ++ after)) s :=
  describes_iff_of_perm List.perm_middle

theorem Describes.rename {key key' : List Char} {t : Tree} {f : Field} (hkey : f.NamedBy key)
    (hkey' : f.NamedBy key') (h : Describes ((key, t) :: ms) s) : Describes ((key', t) :: ms) s := by
  obtain ⟨_, hfs, hnodup, hother⟩ := h
  cases hfs with
  | cons hm hfs =>
    obtain ⟨hnamed, hsays⟩ := hm
    obtain rfl := hkey.unique hnamed
    exact ⟨_, .cons ⟨hkey', hsays⟩ hfs, hnodup, hother⟩

theorem notMem_of_forall₂_describe {fs : List Field} {f : Field}
    (h : List.Forall₂ (Describe s) ms fs) (hms : ∀ m ∈ ms, ¬ f.NamedBy m.1) : f ∉ fs := by
  induction h with
  | nil => exact List.not_mem_nil
  | cons hm _ ih =>
    obtain ⟨hnot, hms⟩ := List.forall_mem_cons.mp hms
    rw [List.mem_cons, not_or]
    exact ⟨fun heq => hnot (heq ▸ hm.1), ih hms⟩

theorem describes_blank_iff {key : List Char} {t : Tree} {f : Field} (hkey : f.NamedBy key)
    (ht : t ∈ f.blanks) (hms : ∀ m ∈ ms, ¬ f.NamedBy m.1) :
    Describes ((key, t) :: ms) s ↔ Describes ms s := by
  constructor
  · rintro ⟨_, hfs, hnodup, hother⟩
    cases hfs with
    | cons hm hfs =>
      rename_i g fs
      obtain ⟨hnamed, hsays⟩ := hm
      obtain rfl := hkey.unique hnamed
      refine ⟨fs, hfs, hnodup.of_cons, ?_⟩
      intro g hg
      by_cases heq : g = f
      · rw [heq]
        exact (says_blank_iff ht).mp hsays
      · exact hother g (by simp [heq, hg])
  · rintro ⟨fs, hfs, hnodup, hother⟩
    have hf : f ∉ fs := notMem_of_forall₂_describe hfs hms
    refine ⟨f :: fs, .cons ⟨hkey, (says_blank_iff ht).mpr (hother f hf)⟩ hfs,
      List.nodup_cons.mpr ⟨hf, hnodup⟩, ?_⟩
    intro g hg
    exact hother g fun hmem => hg (List.mem_cons_of_mem f hmem)

theorem describes_iff_of_change (h : Change ms ms') : Describes ms s ↔ Describes ms' s := by
  cases h with
  | permute _ _ hperm => exact describes_iff_of_perm hperm
  | rename before after key key' t f hkey hkey' =>
    rw [describes_middle_iff, describes_middle_iff]
    exact ⟨fun h => h.rename hkey hkey', fun h => h.rename hkey' hkey⟩
  | add before after key t f hkey ht hms =>
    rw [describes_middle_iff, describes_blank_iff hkey ht hms]
  | remove before after key t f hkey ht hms =>
    rw [describes_middle_iff, describes_blank_iff hkey ht hms]

end

/-! ## Texts -/

theorem decode_eq_ok_iff_of_rewrite {a b : String} (h : Rewrites a b) (s : DeviceSpec) :
    decode a = .ok s ↔ decode b = .ok s := by
  cases h with
  | respace ms ha hb => rw [decode_eq_ok_iff_describes ha, decode_eq_ok_iff_describes hb]
  | change ms ms' ha hb hchange =>
    rw [decode_eq_ok_iff_describes ha, decode_eq_ok_iff_describes hb,
      describes_iff_of_change hchange]

/-- Rewritten texts are decoded to the same specs, or not at all. -/
theorem decode_eq_ok_iff_of_rewrites {a b : String} (h : Relation.ReflTransGen Rewrites a b) :
    (∀ s, decode a = .ok s ↔ decode b = .ok s) ∧
      ∀ ms, ObjectText a ms → ∀ s, decode b = .ok s ↔ Describes ms s := by
  have hsame (s : DeviceSpec) : decode a = .ok s ↔ decode b = .ok s := by
    induction h with
    | refl => rfl
    | tail _ hrewrite ih => exact ih.trans (decode_eq_ok_iff_of_rewrite hrewrite s)
  refine ⟨hsame, ?_⟩
  intro ms hms s
  rw [← hsame s, decode_eq_ok_iff_describes hms]

/-- A key under its other name, a default value and spaces. -/
theorem decode_eq_ok_iff_of_rewrites_renamed :
    Relation.ReflTransGen Rewrites "\x7b\"sdkVersion\":30\x7d"
        "\x7b\"ram\": \"0\",\"sdk_version\":30\x7d\n" ∧
      (∀ s, decode "\x7b\"sdkVersion\":30\x7d" = .ok s ↔
        decode "\x7b\"ram\": \"0\",\"sdk_version\":30\x7d\n" = .ok s) ∧
      decode "\x7b\"ram\": \"0\",\"sdk_version\":30\x7d\n" = .ok { sdkVersion := 30 } := by
  have hobject (text : String) (inner w : List Char) (ms : List (List Char × Tree)) (hw : Spaces w)
      (htext : text.toList = '\x7b' :: inner ++ ['\x7d'] ++ w)
      (hms : Items (KeyValue (Levels 1)) true inner ms) : ObjectText text ms :=
    ⟨[], _, w, htext, spaces_nil, hw, 2, .object inner ms hms⟩
  have hmember (name : String) (w v : List Char) (hw : Spaces w) (hv : Token v) :
      KeyValue (Levels 1) (printString name ++ (':' :: w ++ v)) (printString name, .token v) :=
    ⟨_, v, rfl, stringToken_of_quoted (quoted_printString name), ⟨[], w, rfl, spaces_nil, hw⟩,
      .token v hv⟩
  have hnamed (f : Field) (name : String) (h : name ∈ f.spellings) : f.NamedBy (printString name) :=
    ⟨name, h, quoted_printString name⟩
  have hcamel := hnamed .sdkVersion "sdkVersion" (by decide)
  have hsnake := hnamed .sdkVersion "sdk_version" (by decide)
  have hram := hnamed .ram "ram" (by decide)
  -- The version comes last, under either name.
  have hversion (name : String) (first : Bool) (gap : List Char) (hgap : Gap first gap) :=
    Items.next first gap _ [] _ [] hgap (hmember name [] ['3', '0'] spaces_nil
      (token_of_integral (.natural ['3', '0'] 30 ⟨by decide, by decide⟩))) (.done false [] spaces_nil)
  have hfirst := hobject "\x7b\"sdkVersion\":30\x7d" _ [] _ spaces_nil (by rfl)
    (hversion "sdkVersion" true [] (.first [] spaces_nil))
  have hsecond := hobject "\x7b\"sdk_version\":30\x7d" _ [] _ spaces_nil (by rfl)
    (hversion "sdk_version" true [] (.first [] spaces_nil))
  have hthird := hobject "\x7b\"ram\": \"0\",\"sdk_version\":30\x7d\n" _ ['\n'] _
    (by simp [Spaces]) (by rfl)
    (.next true [] _ _ _ _ (.first [] spaces_nil)
      (hmember "ram" [' '] ['"', '0', '"'] (by simp [Spaces])
        (.inl (stringToken_of_quoted quoted_zero)))
      (hversion "sdk_version" false [','] (.comma [] [] spaces_nil spaces_nil)))
  have hrename := Rewrites.change _ _ _ _ hfirst hsecond
    (.rename [] [] _ _ _ .sdkVersion hcamel hsnake)
  have hadd := Rewrites.change _ _ _ _ hsecond hthird
    (.add [] _ _ _ .ram hram (by simp [Field.blanks, Content.blanks, Field.content]) (by
      intro m hm hnamed
      rw [List.mem_singleton.mp hm] at hnamed
      cases hsnake.unique hnamed))
  have hab := (Relation.ReflTransGen.single hrename).tail hadd
  have hread : decode "\x7b\"sdkVersion\":30\x7d" = .ok { sdkVersion := 30 } := by rfl
  obtain ⟨hsame, -⟩ := decode_eq_ok_iff_of_rewrites hab
  exact ⟨hab, hsame, (hsame _).mp hread⟩

end BundleInspect.DeviceSpec
