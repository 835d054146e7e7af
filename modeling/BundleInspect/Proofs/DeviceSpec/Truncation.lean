import BundleInspect.Proofs.DeviceSpec.Decoding
import BundleInspect.Proofs.Json.TruncatedItems

/-!
# Device specs that are cut short

`decode_of_cut`: a document that is cut anywhere before its last bracket is told to end too early. It
is never taken for another spec, nor told to be wrong in any other way.
-/

namespace BundleInspect.DeviceSpec

open Json

/-! ## SDK runtimes -/

theorem runtimeEntry_takesCut : TakesCut runtimeEntry RuntimeStep := by
  rintro seen key p q seen' ⟨v, ha, hkey, hseen, hb⟩ hq
  have hread : Exhausts _ fun a seen' => ∃ v, Assigned a v ∧ ∃ b, Truth v b ∧ some b = seen' :=
    (boolean_starves.exhausts.spaced_map some fun _ _ ⟨b, hb, _⟩ => ⟨b, hb⟩).after_colon
  dsimp only at hkey
  unfold runtimeEntry
  rw [if_pos hkey, if_neg (by simp [hseen])]
  exact hread ⟨v, ha, hb⟩ hq

theorem runtimeOfObject_starves : Starves runtimeOfObject RuntimeMembers := by
  rintro p q r ⟨seen, hseen, -⟩ hq
  exact (object_starves runtimeEntry_takes runtimeEntry_takesCut none hseen hq).bind _

theorem runtimeOfList_starves : Starves runtimeOfList RuntimeElements := by
  rintro p q r ⟨inner, bs, heq, hinner, hlen, -⟩ hq
  unfold runtimeOfList
  cases hinner with
  | done _ _ hw =>
    obtain ⟨t, rfl⟩ := cut_concat heq hq
    exact (nextElement_waits.spaces hw.of_append true).bind _
  | next _ gap v more b bs hgap hv hmore =>
    rw [List.append_assoc, List.append_assoc] at heq
    rcases nextElement_cut truth_led hgap hv heq with hstarved | ⟨t, ht, hnext⟩
    · exact hstarved.bind _
    · rw [hnext, ok_bind]
      dsimp only
      rcases cut_append ht with ⟨t', ht', rfl⟩ | ⟨t', rfl, ht'⟩
      · exact (boolean_starves (spaced_of_value hv) ht').bind _
      · obtain rfl : bs = [] := by simpa using hlen
        have hends := (hmore.ends (ends_bracket [])).of_cut ht'
        rw [boolean_accepts.complete (spaced_of_value hv) hends, ok_bind]
        cases hmore with
        | done _ _ hw =>
          obtain ⟨u, rfl⟩ := cut_concat ht' hq
          exact (starved_closeList hw.of_append).bind _

theorem runtime_starves : Starves runtime (Spaced Runtime) := by
  rintro p q r ⟨w, v, heq, hw, hv⟩ hq
  have hbracketed := bracketed_runtime_iff.mpr hv
  exact record_starves runtimeOfObject_starves runtimeOfList_starves ⟨w, v, heq, hw, hbracketed⟩ hq

/-! ## Sizes -/

theorem inRange_of_between {i j : Int} (h : InRange i) (hj : 0 ≤ j ∧ j ≤ i ∨ i ≤ j ∧ j ≤ 0) :
    InRange j := by
  unfold InRange at h ⊢
  omega

theorem memory_exhausts {leave : List Char → List Char} : Exhausts (memory leave) (Spaced Size) := by
  intro p q n h hq
  rcases h.cut with hp | ⟨w, v, rfl, hw, hne, hv⟩
  · have hscan : Starved (scan sizeDepth p) := by
      unfold scan
      exact (starved_start hp).bind _
    exact .inl (hscan.bind _)
  · generalize hcut : v ++ q = cs at hv
    cases hv with
    | number _ hi =>
      rw [← hcut] at hi
      rcases integral_cut hi hne hq with rfl | ⟨j, hj, hbetween⟩
      · have hscan : Starved (scan sizeDepth (w ++ ['-'])) := by
          unfold scan
          rw [start_sign hw, ok_bind]
          exact starved_number_sign.bind _
        exact .inl (hscan.bind _)
      · have hrange := inRange_of_between (inRange_toInt n) hbetween
        have hsize : Size v (Int64.ofInt j) := by
          apply Size.number
          rw [toInt_ofInt_of_inRange hrange]
          exact hj
        have hread : memory leave (w ++ v ++ []) = _ :=
          memory_accepts.complete ⟨w, v, rfl, hw, hsize⟩ ends_nil
        rw [List.append_nil] at hread
        exact .inr ⟨_, hread⟩
    | text x _ hx =>
      rw [← hcut] at hx
      obtain ⟨c, t, rfl⟩ := List.exists_cons_of_ne_nil hne
      obtain rfl : c = '"' := hx.head
      have hscan : Starved (scan sizeDepth (w ++ '"' :: t)) := by
        unfold scan
        rw [start_of_spaces hw rfl, ok_bind]
        exact (starved_string_of_quoted hx hq).bind _
      exact .inl (hscan.bind _)

/-! ## Fields -/

theorem replaces_exhausts {α : Type} {reader : List Char → Except Fault (α × List Char)}
    {Value : List Char → α → Prop} {s : DeviceSpec} (f : Field) (whole : α → DeviceSpec)
    (h : Exhausts reader (Spaced Value))
    (hvalue : ∀ v s', (f.content s').Written v → ∃ x, Value v x) :
    Exhausts (fun cs => do let (x, rest) ← reader cs; return (whole x, rest))
      (Spaced (f.Replaces s)) := by
  apply h.spaced_map whole
  exact fun v s' hv => hvalue v s' hv.1

theorem Field.read_exhausts (leave : List Char → List Char) (f : Field) (s : DeviceSpec) :
    Exhausts (f.read leave s) (Spaced (f.Replaces s)) := by
  have hnil : Starved (start []) := starved_start spaces_nil
  have htier := optional_exhausts signed32_exhausts ((hnil.bind _).bind _)
    (fun v _ => integral_led v _) fun cs _ => integral_ne_null cs _
  have hruntime := optional_exhausts runtime_starves.exhausts (hnil.bind _) runtime_led
    runtime_ne_null
  have hcountry := optional_exhausts text_starves.exhausts (hnil.bind _) quoted_led quoted_ne_null
  have htext := text_starves.exhausts
  have htexts := texts_starves.exhausts
  cases f with
  | supportedAbis =>
    exact replaces_exhausts .supportedAbis (fun x => { s with supportedAbis := x }) htexts
      fun _ _ h => ⟨_, h⟩
  | supportedLocales =>
    exact replaces_exhausts .supportedLocales (fun x => { s with supportedLocales := x }) htexts
      fun _ _ h => ⟨_, h⟩
  | deviceFeatures =>
    exact replaces_exhausts .deviceFeatures (fun x => { s with deviceFeatures := x }) htexts
      fun _ _ h => ⟨_, h⟩
  | glExtensions =>
    exact replaces_exhausts .glExtensions (fun x => { s with glExtensions := x }) htexts
      fun _ _ h => ⟨_, h⟩
  | screenDensity =>
    exact replaces_exhausts .screenDensity (fun x => { s with screenDensity := x }) unsigned32_exhausts
      fun _ _ h => ⟨_, h⟩
  | sdkVersion =>
    exact replaces_exhausts .sdkVersion (fun x => { s with sdkVersion := x }) signed32_exhausts
      fun _ _ h => ⟨_, h⟩
  | codename =>
    exact replaces_exhausts .codename (fun x => { s with codename := x }) htext fun _ _ h => ⟨_, h⟩
  | sdkRuntime =>
    exact replaces_exhausts .sdkRuntime (fun x => { s with sdkRuntime := x }) hruntime
      fun _ _ h => ⟨_, h⟩
  | ram =>
    exact replaces_exhausts .ram (fun x => { s with ram := x }) memory_exhausts fun _ _ h => ⟨_, h⟩
  | buildBrand =>
    exact replaces_exhausts .buildBrand (fun x => { s with buildBrand := x }) htext
      fun _ _ h => ⟨_, h⟩
  | buildDevice =>
    exact replaces_exhausts .buildDevice (fun x => { s with buildDevice := x }) htext
      fun _ _ h => ⟨_, h⟩
  | socManufacturer =>
    exact replaces_exhausts .socManufacturer (fun x => { s with socManufacturer := x }) htext
      fun _ _ h => ⟨_, h⟩
  | socModel =>
    exact replaces_exhausts .socModel (fun x => { s with socModel := x }) htext fun _ _ h => ⟨_, h⟩
  | deviceTier =>
    exact replaces_exhausts .deviceTier (fun x => { s with deviceTier := x }) htier
      fun _ _ h => ⟨_, h⟩
  | deviceGroups =>
    exact replaces_exhausts .deviceGroups (fun x => { s with deviceGroups := x }) htexts
      fun _ _ h => ⟨_, h⟩
  | countrySet =>
    exact replaces_exhausts .countrySet (fun x => { s with countrySet := x }) hcountry
      fun _ _ h => ⟨_, h⟩

/-! ## Documents -/

theorem entry_takesCut : TakesCut entry Progress.Step := by
  rintro seen key p q seen' ⟨v, ha, f, hkey, hseen, hs, -⟩ hq
  have hread : Exhausts _ fun a (_ : Progress) =>
      ∃ v, Assigned a v ∧ ∃ s, f.Replaces seen.spec v s :=
    ((f.read_exhausts leaveObject seen.spec).spaced_map
      (fun s => Progress.mk s (f :: seen.seen)) fun _ _ h => h).after_colon
  unfold entry
  rw [Field.ofKey?_eq_some_iff.mpr hkey]
  dsimp only
  rw [if_neg hseen]
  exact @hread p q seen' ⟨v, ha, _, hs⟩ hq

theorem ofObject_starves : Starves ofObject DocumentMembers := by
  rintro p q s ⟨inner, ms, fs, heq, hinner, hnames, hnodup, hfills⟩ hq
  have hthrough := through_of_fills hnames hnodup hfills
  exact (object_starves entry_takes entry_takesCut {} ⟨inner, ms, heq, hinner, hthrough⟩ hq).bind _

def valuesAndEnd (fs : List Field) (first : Bool) (s : DeviceSpec) (cs : List Char) :
    Except Fault (DeviceSpec × List Char) := do
  let (s, rest) ← values fs first s cs
  return (s, ← closeList rest)

theorem starved_values_of_spaces {w : List Char} (hw : Spaces w) (fs : List Field) (first : Bool)
    (s : DeviceSpec) : Starved (valuesAndEnd fs first s w) := by
  cases fs with
  | nil => exact (starved_closeList hw).bind _
  | cons f fs => exact ((nextElement_waits.spaces hw first).bind _).bind _

theorem starved_values {first : Bool} {inner p q : List Char} {vs : List (List Char)}
    (hinner : Items (fun v v' => v = v') first inner vs) {fs : List Field} (hnodup : fs.Nodup)
    (hlen : vs.length ≤ fs.length) {s s' : DeviceSpec}
    (hfills : Fills s (fs.take vs.length) vs s') (heq : p ++ q = inner ++ [']']) (hq : q ≠ []) :
    Starved (valuesAndEnd fs first s p) := by
  induction hinner generalizing fs s p with
  | done first w hw =>
    obtain ⟨r, rfl⟩ := cut_concat heq hq
    exact starved_values_of_spaces hw.of_append fs first s
  | next first gap v more v' vs hgap hv hmore ih =>
    subst hv
    cases fs with
    | nil => cases hlen
    | cons f fs =>
      obtain ⟨hf, hnodup⟩ := List.nodup_cons.mp hnodup
      have hf' : f ∉ fs.take vs.length := fun hmem => hf (List.mem_of_mem_take hmem)
      obtain ⟨s₁, hs, hfills⟩ := (fills_cons_iff hf').mp hfills
      have hled : Led fun v (s : DeviceSpec) => (f.content s).Written v := fun _ _ h => written_led h
      rw [List.append_assoc, List.append_assoc] at heq
      unfold valuesAndEnd
      rw [values]
      rcases nextElement_cut hled hgap hs.1 heq with hstarved | ⟨r, hr, hnext⟩
      · exact (hstarved.bind _).bind _
      · rw [hnext, ok_bind]
        dsimp only
        rcases cut_append hr with ⟨r', hr', rfl⟩ | ⟨r', rfl, hr'⟩
        · rcases f.read_exhausts leaveList s (spaced_of_value hs) hr' with hstarved | ⟨s₂, hread⟩
          · exact (hstarved.bind _).bind _
          · rw [hread, ok_bind]
            exact starved_values_of_spaces spaces_nil fs false s₂
        · have hends := (hmore.ends (ends_bracket [])).of_cut hr'
          rw [(f.read_accepts leaveList s).complete (spaced_of_value hs) hends, ok_bind]
          exact ih hnodup (Nat.le_of_succ_le_succ hlen) hfills hr'

theorem ofList_starves : Starves ofList DocumentElements := by
  rintro p q s ⟨inner, vs, heq, hinner, hlen, hfills⟩ hq
  exact starved_values hinner Field.nodup_all hlen hfills heq hq

theorem starved_document {p q w cs : List Char} {s : DeviceSpec} (heq : p ++ q = w ++ cs)
    (hw : Spaces w) (hcs : Document cs s) (hq : q ≠ []) : Starved (document p) := by
  have hbracketed := bracketed_document_iff.mpr hcs
  exact (record_starves ofObject_starves ofList_starves ⟨w, cs, heq, hw, hbracketed⟩ hq).bind _

theorem spaces_eq_nil {cs w : List Char} (hw : Spaces w)
    (hlast : ∀ c ∈ (cs ++ w).getLast?, isSpace c = false) : w = [] := by
  by_contra hne
  have hspace := hw _ (List.getLast_mem hne)
  rw [← isSpace_eq_true_iff] at hspace
  have hget : (cs ++ w).getLast? = some (w.getLast hne) := by
    rw [List.getLast?_append_of_ne_nil _ hne, List.getLast?_eq_some_getLast hne]
  rw [hlast _ hget] at hspace
  cases hspace

/-- A document that is cut short is told to end too early. -/
theorem decode_of_cut {text p : String} {s : DeviceSpec} (hs : decode text = .ok s)
    (hlast : ∀ c ∈ text.toList.getLast?, isSpace c = false) (hp : p.toList <+: text.toList)
    (hne : p ≠ text) : ∃ e, decode p = .error e ∧ e.cause.category = .ending := by
  obtain ⟨w, cs, w', htext, hw, hw', hcs⟩ := document_eq_ok_iff.mp (decode_eq_ok_iff.mp hs)
  obtain ⟨q, heq⟩ := hp
  have hq : q ≠ [] := by
    rintro rfl
    rw [List.append_nil] at heq
    exact hne (String.toList_inj.mp heq)
  rw [htext] at hlast
  rw [htext, spaces_eq_nil hw' hlast, List.append_nil] at heq
  obtain ⟨fault, hfault, hending⟩ := starved_document heq hw hcs hq
  refine ⟨⟨fault.cause, fault.place p.toList⟩, ?_, hending⟩
  rw [decode, hfault]

/-- A cut between the halves of a character, and one behind a sign. -/
theorem decode_of_cut_surrogate :
    decode "\x7b\"codename\":\"\\ud83d\\ude00\",\"sdkVersion\":-30\x7d" =
        .ok { codename := "😀", sdkVersion := -30 } ∧
      (∃ e, decode "\x7b\"codename\":\"\\ud83d\\u" = .error e ∧ e.cause.category = .ending) ∧
      ∃ e, decode "\x7b\"codename\":\"\\ud83d\\ude00\",\"sdkVersion\":-" = .error e ∧
        e.cause.category = .ending := by
  have hs : decode "\x7b\"codename\":\"\\ud83d\\ude00\",\"sdkVersion\":-30\x7d" =
      .ok { codename := "😀", sdkVersion := -30 } := by
    rfl
  have hlast : ∀ c ∈ "\x7b\"codename\":\"\\ud83d\\ude00\",\"sdkVersion\":-30\x7d".toList.getLast?,
      isSpace c = false := by
    intro c hc
    obtain rfl : '\x7d' = c := Option.some.inj hc
    rfl
  refine ⟨hs, ?_, ?_⟩
  · exact decode_of_cut hs hlast (by decide) (by decide)
  · exact decode_of_cut hs hlast (by decide) (by decide)

end BundleInspect.DeviceSpec
