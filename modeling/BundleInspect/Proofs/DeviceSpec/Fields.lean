import BundleInspect.Proofs.DeviceSpec.Sizes

/-!
# Fields are read as the grammar says

`Field.read_accepts`: reading a field takes what may be written for it, and changes no other field.
-/

namespace BundleInspect.DeviceSpec

open Json

/-! ## SDK runtimes -/

def RuntimeStep (seen : Option Bool) (m : String × List Char) (seen' : Option Bool) : Prop :=
  m.1 = "supported" ∧ seen = none ∧ ∃ b, Truth m.2 b ∧ some b = seen'

theorem runtimeEntry_takes : Takes runtimeEntry RuntimeStep := by
  intro seen key
  have hread := (boolean_accepts.spaced_map some).after_colon
  constructor
  · intro cs rest seen' h
    unfold runtimeEntry at h
    split at h
    case isTrue hkey =>
      split at h
      case isTrue => cases h
      case isFalse hseen =>
        obtain ⟨a, rfl, v, ha, hv⟩ := hread.sound h
        have hnone : seen = none := by simpa using hseen
        exact ⟨a, rfl, v, ha, hkey, hnone, hv⟩
    case isFalse => cases h
  · rintro a rest seen' ⟨v, ha, hkey, hseen, hv⟩ hrest
    dsimp only at hkey
    unfold runtimeEntry
    rw [if_pos hkey, if_neg (by simp [hseen])]
    exact hread.complete ⟨v, ha, hv⟩ hrest

theorem through_runtime_iff {ms : List (String × List Char)} {seen : Option Bool} :
    Through RuntimeStep none ms seen ↔
      ms = [] ∧ seen = none ∨ ∃ v b, ms = [("supported", v)] ∧ Truth v b ∧ seen = some b := by
  constructor
  · intro h
    cases h with
    | nil => exact .inl ⟨rfl, rfl⟩
    | cons _ seen' _ m ms hstep hmore =>
      obtain ⟨hkey, -, b, hb, rfl⟩ := hstep
      cases hmore with
      | nil => exact .inr ⟨m.2, b, by rw [← hkey], hb, rfl⟩
      | cons _ _ _ _ _ hstep => exact absurd hstep.2.1 (Option.some_ne_none b)
  · rintro (⟨rfl, rfl⟩ | ⟨v, b, rfl, hb, rfl⟩)
    · exact .nil none
    · exact .cons _ _ _ _ _ ⟨rfl, rfl, b, hb, rfl⟩ (.nil _)

def RuntimeMembers (t : List Char) (r : SdkRuntime) : Prop :=
  ∃ seen, (∃ inner ms, t = inner ++ ['\x7d'] ∧ Items Member true inner ms ∧
    Through RuntimeStep none ms seen) ∧ SdkRuntime.mk (seen.getD false) = r

def RuntimeElements (t : List Char) (r : SdkRuntime) : Prop :=
  ∃ inner bs, t = inner ++ [']'] ∧ Items Truth true inner bs ∧ bs.length ≤ 1 ∧
    r = ⟨bs.headD false⟩

theorem runtimeOfList_accepts : Accepts runtimeOfList RuntimeElements := by
  constructor
  · intro cs rest r h
    rw [runtimeOfList, bind_eq_ok] at h
    obtain ⟨⟨more, cs'⟩, hnext, h⟩ := h
    cases more with
    | false =>
      obtain ⟨w, r', rfl, rfl, hw⟩ := nextElement_eq_false hnext
      simp only [closeList_bracket, ok_bind, pure_eq_ok, Except.ok.injEq, Prod.mk.injEq] at h
      obtain ⟨rfl, rfl⟩ := h
      exact ⟨w ++ [']'], by simp, w, [], rfl, .done true w hw, by simp, rfl⟩
    | true =>
      obtain ⟨gap, rfl, hgap⟩ := nextElement_eq_true hnext
      dsimp only at h
      rw [bind_eq_ok] at h
      obtain ⟨⟨b, cs''⟩, hb, h⟩ := h
      obtain ⟨_, rfl, w, v, rfl, hw, hv⟩ := boolean_accepts.sound hb
      dsimp only at h
      rw [bind_eq_ok] at h
      obtain ⟨rest', hclose, h⟩ := h
      cases h
      obtain ⟨w', rfl, hw'⟩ := closeList_eq_ok_iff.mp hclose
      refine ⟨((gap ++ w) ++ v ++ w') ++ [']'], by simp, _, [b], rfl, ?_, by simp, rfl⟩
      exact .next true _ v w' b [] (hgap.append_spaces hw) hv (.done false w' hw')
  · rintro _ rest r ⟨inner, bs, rfl, hinner, hlen, rfl⟩ hrest
    rw [List.append_assoc, List.singleton_append]
    cases hinner with
    | done _ _ hw =>
      rw [runtimeOfList, nextElement_of_close hw]
      simp
    | next _ gap v more b bs hgap hv hmore =>
      obtain ⟨c, cs, rfl, hspace, hclose⟩ := truth_led v b hv
      have hread := boolean_accepts.complete ⟨[], c :: cs, rfl, spaces_nil, hv⟩
        (hmore.ends (ends_bracket rest))
      have hnext := nextElement_of_gap hgap hspace hclose (cs ++ (more ++ ']' :: rest))
      obtain rfl : bs = [] := by simpa using hlen
      cases hmore with
      | done _ _ hw =>
        have hend : closeList (more ++ ']' :: rest) = .ok rest :=
          closeList_eq_ok_iff.mpr ⟨more, rfl, hw⟩
        simp only [List.nil_append, List.cons_append, List.append_assoc] at hread ⊢
        rw [runtimeOfList, hnext]
        simp [hread, hend]

theorem bracketed_runtime_iff {v : List Char} {r : SdkRuntime} :
    Bracketed RuntimeMembers RuntimeElements v r ↔ Runtime v r := by
  constructor
  · rintro (⟨_, rfl, seen, ⟨inner, ms, rfl, hinner, hthrough⟩, rfl⟩ |
      ⟨_, rfl, inner, bs, rfl, hinner, hlen, rfl⟩)
    · rcases through_runtime_iff.mp hthrough with ⟨rfl, rfl⟩ | ⟨v, b, rfl, hb, rfl⟩
      · exact .unnamed _ ⟨inner, rfl, hinner⟩
      · exact .named _ v b ⟨inner, rfl, hinner⟩ hb
    · exact .listed _ bs ⟨inner, rfl, hinner⟩ hlen
  · intro h
    cases h with
    | unnamed hms =>
      obtain ⟨inner, rfl, hinner⟩ := hms
      have hthrough := through_runtime_iff.mpr (.inl ⟨rfl, rfl⟩)
      exact .inl ⟨_, rfl, none, ⟨inner, [], rfl, hinner, hthrough⟩, rfl⟩
    | named v b hms hb =>
      obtain ⟨inner, rfl, hinner⟩ := hms
      have hthrough := through_runtime_iff.mpr (.inr ⟨v, b, rfl, hb, rfl⟩)
      exact .inl ⟨_, rfl, some b, ⟨inner, _, rfl, hinner, hthrough⟩, rfl⟩
    | listed bs hbs hlen =>
      obtain ⟨inner, rfl, hinner⟩ := hbs
      exact .inr ⟨_, rfl, inner, bs, rfl, hinner, hlen, rfl⟩

theorem runtime_accepts : Accepts runtime (Spaced Runtime) := by
  have hobject : Accepts runtimeOfObject RuntimeMembers :=
    (object_accepts runtimeEntry_takes none).map fun seen => SdkRuntime.mk (seen.getD false)
  exact (record_accepts hobject runtimeOfList_accepts).spaced_congr fun _ _ => bracketed_runtime_iff

theorem runtime_led : Led Runtime := by
  intro v r h
  cases h with
  | unnamed hms => exact membered_led v _ hms
  | named _ _ hms => exact membered_led v _ hms
  | listed _ hbs => exact listed_led v _ hbs

/-! ## Values that may be absent -/

theorem quoted_ne_null (cs : List Char) (text : String) : ¬ Quoted ('n' :: cs) text := by
  rintro ⟨body, h, -⟩
  cases h

theorem integral_ne_null (cs : List Char) (i : Int) : ¬ Integral ('n' :: cs) i := by
  intro h
  obtain ⟨_, _, heq, hstart⟩ := integral_starts h
  cases heq
  cases hstart

theorem runtime_ne_null (cs : List Char) (r : SdkRuntime) : ¬ Runtime ('n' :: cs) r := by
  intro h
  cases h with
  | unnamed hms =>
    obtain ⟨inner, h, -⟩ := hms
    cases h
  | named _ _ hms =>
    obtain ⟨inner, h, -⟩ := hms
    cases h
  | listed _ hbs =>
    obtain ⟨inner, h, -⟩ := hbs
    cases h

/-! ## Fields -/

/-- The value of a field replaces what the field held, and nothing else. -/
def Field.Replaces (f : Field) (s : DeviceSpec) (v : List Char) (s' : DeviceSpec) : Prop :=
  (f.content s').Written v ∧ ∀ g ≠ f, g.content s' = g.content s

theorem replaces_accepts {α : Type} {reader : List Char → Except Fault (α × List Char)}
    {s : DeviceSpec} (f : Field) (whole : α → DeviceSpec)
    (h : Accepts reader (Spaced fun v x => (f.content (whole x)).Written v))
    (hwhole : ∀ t, ∃ x, f.content t = f.content (whole x)) :
    Accepts (fun cs => do let (x, rest) ← reader cs; return (f.put (whole x) s, rest))
      (Spaced (f.Replaces s)) := by
  refine (h.spaced_map fun x => f.put (whole x) s).spaced_congr ?_
  intro v s'
  constructor
  · rintro ⟨x, hx, rfl⟩
    constructor
    · rw [Field.content_put, if_pos rfl]
      exact hx
    · intro g hg
      rw [Field.content_put, if_neg hg]
  · rintro ⟨hv, hother⟩
    obtain ⟨x, hx⟩ := hwhole s'
    refine ⟨x, by rwa [← hx], eq_of_content fun g => ?_⟩
    rw [Field.content_put]
    split
    case isTrue hg => rw [hg, hx]
    case isFalse hg => exact (hother g hg).symm

theorem Field.read_accepts (leave : List Char → List Char) (f : Field) (s : DeviceSpec) :
    Accepts (f.read leave s) (Spaced (f.Replaces s)) := by
  have htier := optional_accepts signed32_accepts (fun v _ => integral_led v _)
    fun cs _ => integral_ne_null cs _
  have hruntime := optional_accepts runtime_accepts runtime_led runtime_ne_null
  have hcountry := optional_accepts text_accepts quoted_led quoted_ne_null
  cases f with
  | supportedAbis =>
    exact replaces_accepts .supportedAbis (fun x => { s with supportedAbis := x }) texts_accepts
      fun _ => ⟨_, rfl⟩
  | supportedLocales =>
    exact replaces_accepts .supportedLocales (fun x => { s with supportedLocales := x })
      texts_accepts fun _ => ⟨_, rfl⟩
  | deviceFeatures =>
    exact replaces_accepts .deviceFeatures (fun x => { s with deviceFeatures := x }) texts_accepts
      fun _ => ⟨_, rfl⟩
  | glExtensions =>
    exact replaces_accepts .glExtensions (fun x => { s with glExtensions := x }) texts_accepts
      fun _ => ⟨_, rfl⟩
  | screenDensity =>
    exact replaces_accepts .screenDensity (fun x => { s with screenDensity := x })
      unsigned32_accepts fun _ => ⟨_, rfl⟩
  | sdkVersion =>
    exact replaces_accepts .sdkVersion (fun x => { s with sdkVersion := x }) signed32_accepts
      fun _ => ⟨_, rfl⟩
  | codename =>
    exact replaces_accepts .codename (fun x => { s with codename := x }) text_accepts
      fun _ => ⟨_, rfl⟩
  | sdkRuntime =>
    exact replaces_accepts .sdkRuntime (fun x => { s with sdkRuntime := x }) hruntime
      fun _ => ⟨_, rfl⟩
  | ram =>
    exact replaces_accepts .ram (fun x => { s with ram := x }) memory_accepts
      fun _ => ⟨_, rfl⟩
  | buildBrand =>
    exact replaces_accepts .buildBrand (fun x => { s with buildBrand := x }) text_accepts
      fun _ => ⟨_, rfl⟩
  | buildDevice =>
    exact replaces_accepts .buildDevice (fun x => { s with buildDevice := x }) text_accepts
      fun _ => ⟨_, rfl⟩
  | socManufacturer =>
    exact replaces_accepts .socManufacturer (fun x => { s with socManufacturer := x }) text_accepts
      fun _ => ⟨_, rfl⟩
  | socModel =>
    exact replaces_accepts .socModel (fun x => { s with socModel := x }) text_accepts
      fun _ => ⟨_, rfl⟩
  | deviceTier =>
    exact replaces_accepts .deviceTier (fun x => { s with deviceTier := x }) htier
      fun _ => ⟨_, rfl⟩
  | deviceGroups =>
    exact replaces_accepts .deviceGroups (fun x => { s with deviceGroups := x }) texts_accepts
      fun _ => ⟨_, rfl⟩
  | countrySet =>
    exact replaces_accepts .countrySet (fun x => { s with countrySet := x }) hcountry
      fun _ => ⟨_, rfl⟩

end BundleInspect.DeviceSpec
