import BundleInspect.Proofs.DeviceSpec.Fields

/-!
# Device specs are read as the grammar says

`decode_eq_ok_iff_denotes`: a text is decoded to a spec if and only if it is a document of that
spec, and the two kinds of documents agree.
-/

namespace BundleInspect.DeviceSpec

open Json

/-! ## Filling a spec -/

theorem fills_nil_iff {s s' : DeviceSpec} {vs : List (List Char)} :
    Fills s [] vs s' ↔ vs = [] ∧ s' = s := by
  constructor
  · rintro ⟨hvs, hother⟩
    exact ⟨List.forall₂_nil_left_iff.mp hvs, eq_of_content fun f => hother f List.not_mem_nil⟩
  · rintro ⟨rfl, rfl⟩
    exact ⟨.nil, fun _ _ => rfl⟩

theorem fills_cons_iff {s s' : DeviceSpec} {f : Field} {fs : List Field} {v : List Char}
    {vs : List (List Char)} (hf : f ∉ fs) :
    Fills s (f :: fs) (v :: vs) s' ↔ ∃ s₁, f.Replaces s v s₁ ∧ Fills s₁ fs vs s' := by
  constructor
  · rintro ⟨hvs, hother⟩
    obtain ⟨hv, hvs⟩ := List.forall₂_cons.mp hvs
    have hput := Field.content_put f
    refine ⟨f.put s' s, ⟨?_, ?_⟩, hvs, ?_⟩
    · rw [hput, if_pos rfl]
      exact hv
    · intro g hg
      rw [hput, if_neg hg]
    · intro g hg
      rw [hput]
      split
      case isTrue heq => rw [heq]
      case isFalse hne => exact hother g (by simp [hne, hg])
  · rintro ⟨s₁, ⟨hv, hsame⟩, hvs, hother⟩
    refine ⟨.cons ?_ hvs, ?_⟩
    · rw [hother f hf]
      exact hv
    · intro g hg
      simp only [List.mem_cons, not_or] at hg
      rw [hother g hg.2, hsame g hg.1]

/-! ## Objects -/

/-- A member names a field that was not named before, and gives its value. -/
def Progress.Step (p : Progress) (m : String × List Char) (p' : Progress) : Prop :=
  ∃ f, m.1 ∈ f.spellings ∧ f ∉ p.seen ∧ f.Replaces p.spec m.2 p'.spec ∧ p'.seen = f :: p.seen

theorem entry_takes : Takes entry Progress.Step := by
  intro p key
  constructor
  · intro cs rest p' h
    unfold entry at h
    split at h
    case h_1 => cases h
    case h_2 f hkey =>
      split at h
      case isTrue => cases h
      case isFalse hseen =>
        have hread := ((f.read_accepts leaveObject p.spec).spaced_map
          fun s => Progress.mk s (f :: p.seen)).after_colon
        obtain ⟨a, rfl, v, ha, s, hs, rfl⟩ := hread.sound h
        exact ⟨a, rfl, v, ha, f, Field.ofKey?_eq_some_iff.mp hkey, hseen, hs, rfl⟩
  · rintro a rest ⟨s, _⟩ ⟨v, ha, f, hkey, hseen, hs, rfl⟩ hrest
    have hread := ((f.read_accepts leaveObject p.spec).spaced_map
      fun s => Progress.mk s (f :: p.seen)).after_colon
    unfold entry
    rw [Field.ofKey?_eq_some_iff.mpr hkey]
    dsimp only
    rw [if_neg hseen]
    exact hread.complete ⟨v, ha, s, hs, rfl⟩ hrest

theorem through_iff {p p' : Progress} {ms : List (String × List Char)} :
    Through Progress.Step p ms p' ↔
      ∃ fs, Names (ms.map Prod.fst) fs ∧ fs.Nodup ∧ (∀ f ∈ fs, f ∉ p.seen) ∧
        Fills p.spec fs (ms.map Prod.snd) p'.spec ∧ p'.seen = fs.reverse ++ p.seen := by
  constructor
  · intro h
    induction h with
    | nil p => exact ⟨[], .nil, .nil, by simp, fills_nil_iff.mpr ⟨rfl, rfl⟩, rfl⟩
    | cons p p₁ p' m ms hstep hmore ih =>
      obtain ⟨f, hkey, hseen, hs, hp₁⟩ := hstep
      obtain ⟨fs, hnames, hnodup, hnew, hfills, hp'⟩ := ih
      rw [hp₁] at hnew hp'
      have hf : f ∉ fs := fun hmem => hnew f hmem List.mem_cons_self
      refine ⟨f :: fs, .cons hkey hnames, List.nodup_cons.mpr ⟨hf, hnodup⟩, ?_, ?_, ?_⟩
      · intro g hg
        rcases List.mem_cons.mp hg with rfl | hg
        · exact hseen
        · exact fun hmem => hnew g hg (List.mem_cons_of_mem f hmem)
      · exact (fills_cons_iff hf).mpr ⟨p₁.spec, hs, hfills⟩
      · simp [hp']
  · rintro ⟨fs, hnames, hnodup, hnew, hfills, hp'⟩
    induction ms generalizing p fs with
    | nil =>
      obtain rfl := List.forall₂_nil_left_iff.mp hnames
      obtain ⟨-, hspec⟩ := fills_nil_iff.mp hfills
      obtain rfl : p' = p := by
        cases p
        cases p'
        simp_all
      exact .nil p'
    | cons m ms ih =>
      cases hnames with
      | cons hkey hnames =>
        rename_i f fs
        obtain ⟨hf, hnodup⟩ := List.nodup_cons.mp hnodup
        obtain ⟨s₁, hs, hfills⟩ := (fills_cons_iff hf).mp hfills
        obtain ⟨hseen, hnew⟩ := List.forall_mem_cons.mp hnew
        refine .cons p ⟨s₁, f :: p.seen⟩ p' m ms ⟨f, hkey, hseen, hs, rfl⟩ ?_
        refine ih fs hnames hnodup ?_ hfills (by simp [hp'])
        intro g hg hmem
        rcases List.mem_cons.mp hmem with rfl | hmem
        · exact hf hg
        · exact hnew g hg hmem

theorem through_of_fills {ms : List (String × List Char)} {fs : List Field} {s : DeviceSpec}
    (hnames : Names (ms.map Prod.fst) fs) (hnodup : fs.Nodup)
    (hfills : Fills empty fs (ms.map Prod.snd) s) :
    Through Progress.Step {} ms ⟨s, fs.reverse⟩ :=
  through_iff.mpr ⟨fs, hnames, hnodup, by simp, hfills, by simp⟩

def DocumentMembers (t : List Char) (s : DeviceSpec) : Prop :=
  ∃ inner ms fs, t = inner ++ ['\x7d'] ∧ Items Member true inner ms ∧
    Names (ms.map Prod.fst) fs ∧ fs.Nodup ∧ Fills empty fs (ms.map Prod.snd) s

theorem ofObject_accepts : Accepts ofObject DocumentMembers := by
  refine ((object_accepts entry_takes {}).map Progress.spec).congr ?_
  intro t s
  constructor
  · rintro ⟨p, ⟨inner, ms, rfl, hinner, hthrough⟩, rfl⟩
    obtain ⟨fs, hnames, hnodup, -, hfills, -⟩ := through_iff.mp hthrough
    exact ⟨inner, ms, fs, rfl, hinner, hnames, hnodup, hfills⟩
  · rintro ⟨inner, ms, fs, rfl, hinner, hnames, hnodup, hfills⟩
    exact ⟨_, ⟨inner, ms, rfl, hinner, through_of_fills hnames hnodup hfills⟩, rfl⟩

/-! ## Lists -/

theorem written_led {v : List Char} {c : Content} (h : c.Written v) :
    ∃ first cs, v = first :: cs ∧ isSpace first = false ∧ first ≠ ']' := by
  cases c with
  | texts xs => exact listed_led v xs h
  | text x => exact quoted_led v x h
  | unsigned n => exact integral_led v _ h
  | signed n => exact integral_led v _ h
  | runtime r => exact nullable_led runtime_led v r h
  | size n => exact size_led v n h
  | tier t => exact nullable_led (fun v _ => integral_led v _) v t h
  | country x => exact nullable_led quoted_led v x h

theorem values_sound {fs : List Field} (hnodup : fs.Nodup) {first : Bool} {s s' : DeviceSpec}
    {cs cs' rest : List Char} (h : values fs first s cs = .ok (s', cs'))
    (hclose : closeList cs' = .ok rest) :
    ∃ inner vs, cs = inner ++ ']' :: rest ∧ Items (fun v v' => v = v') first inner vs ∧
      vs.length ≤ fs.length ∧ Fills s (fs.take vs.length) vs s' := by
  induction fs generalizing first s cs with
  | nil =>
    cases h
    obtain ⟨w, rfl, hw⟩ := closeList_eq_ok_iff.mp hclose
    exact ⟨w, [], rfl, .done first w hw, le_refl 0, fills_nil_iff.mpr ⟨rfl, rfl⟩⟩
  | cons f fs ih =>
    rw [values, bind_eq_ok] at h
    obtain ⟨⟨more, cs₁⟩, hnext, h⟩ := h
    cases more with
    | false =>
      obtain ⟨w, r, rfl, rfl, hw⟩ := nextElement_eq_false hnext
      cases h
      rw [closeList_bracket] at hclose
      cases hclose
      exact ⟨w, [], rfl, .done first w hw, Nat.zero_le _, fills_nil_iff.mpr ⟨rfl, rfl⟩⟩
    | true =>
      obtain ⟨gap, rfl, hgap⟩ := nextElement_eq_true hnext
      dsimp only at h
      rw [bind_eq_ok] at h
      obtain ⟨⟨s₁, cs₂⟩, hread, h⟩ := h
      obtain ⟨_, rfl, w, v, rfl, hw, hv⟩ := (f.read_accepts leaveList s).sound hread
      obtain ⟨hf, hnodup⟩ := List.nodup_cons.mp hnodup
      obtain ⟨inner, vs, rfl, hinner, hlen, hfills⟩ := ih hnodup h
      refine ⟨(gap ++ w) ++ v ++ inner, v :: vs, by simp, ?_, Nat.succ_le_succ hlen, ?_⟩
      · exact .next first _ v inner v vs (hgap.append_spaces hw) rfl hinner
      · have hf' : f ∉ fs.take vs.length := fun hmem => hf (List.mem_of_mem_take hmem)
        exact (fills_cons_iff hf').mpr ⟨s₁, hv, hfills⟩

theorem values_complete {first : Bool} {inner : List Char} {vs : List (List Char)}
    (hinner : Items (fun v v' => v = v') first inner vs) {fs : List Field} (hnodup : fs.Nodup)
    (hlen : vs.length ≤ fs.length) {s s' : DeviceSpec}
    (hfills : Fills s (fs.take vs.length) vs s') (rest : List Char) :
    ∃ cs', values fs first s (inner ++ ']' :: rest) = .ok (s', cs') ∧
      closeList cs' = .ok rest := by
  induction hinner generalizing fs s with
  | done first w hw =>
    obtain ⟨-, rfl⟩ := fills_nil_iff.mp hfills
    cases fs with
    | nil => exact ⟨w ++ ']' :: rest, rfl, closeList_eq_ok_iff.mpr ⟨w, rfl, hw⟩⟩
    | cons f fs =>
      refine ⟨']' :: rest, ?_, closeList_bracket rest⟩
      rw [values, nextElement_of_close hw]
      rfl
  | next first gap v more v' vs hgap hv hmore ih =>
    subst hv
    cases fs with
    | nil => cases hlen
    | cons f fs =>
      obtain ⟨hf, hnodup⟩ := List.nodup_cons.mp hnodup
      have hf' : f ∉ fs.take vs.length := fun hmem => hf (List.mem_of_mem_take hmem)
      obtain ⟨s₁, hs, hfills⟩ := (fills_cons_iff hf').mp hfills
      obtain ⟨cs', hrest, hclose⟩ := ih hnodup (Nat.le_of_succ_le_succ hlen) hfills
      refine ⟨cs', ?_, hclose⟩
      obtain ⟨c, cs, rfl, hspace, hbracket⟩ := written_led hs.1
      have hread := (f.read_accepts leaveList s).complete ⟨[], c :: cs, rfl, spaces_nil, hs⟩
        (hmore.ends (ends_bracket rest))
      have hnext := nextElement_of_gap hgap hspace hbracket (cs ++ (more ++ ']' :: rest))
      rw [List.nil_append, List.cons_append] at hread
      rw [List.append_assoc, List.append_assoc, List.cons_append, values, hnext]
      simp [hread, hrest]

def DocumentElements (t : List Char) (s : DeviceSpec) : Prop :=
  ∃ inner vs, t = inner ++ [']'] ∧ Items (fun v v' => v = v') true inner vs ∧
    vs.length ≤ Field.all.length ∧ Fills empty (Field.all.take vs.length) vs s

theorem ofList_accepts : Accepts ofList DocumentElements := by
  constructor
  · intro cs rest s h
    rw [ofList, bind_eq_ok] at h
    obtain ⟨⟨s', cs'⟩, hvalues, h⟩ := h
    rw [bind_eq_ok] at h
    obtain ⟨rest', hclose, h⟩ := h
    cases h
    obtain ⟨inner, vs, rfl, hinner, hlen, hfills⟩ := values_sound Field.nodup_all hvalues hclose
    exact ⟨inner ++ [']'], by simp, inner, vs, rfl, hinner, hlen, hfills⟩
  · rintro _ rest s ⟨inner, vs, rfl, hinner, hlen, hfills⟩ -
    obtain ⟨cs', hvalues, hclose⟩ := values_complete hinner Field.nodup_all hlen hfills rest
    rw [List.append_assoc, List.singleton_append, ofList]
    have hstart : values Field.all true {} (inner ++ ']' :: rest) = _ := hvalues
    rw [hstart]
    simp [hclose]

/-! ## Documents -/

theorem bracketed_document_iff {cs : List Char} {s : DeviceSpec} :
    Bracketed DocumentMembers DocumentElements cs s ↔ Document cs s := by
  constructor
  · rintro (⟨_, rfl, inner, ms, fs, rfl, hinner, hnames, hnodup, hfills⟩ |
      ⟨_, rfl, inner, vs, rfl, hinner, hlen, hfills⟩)
    · exact .object _ ms fs s ⟨inner, rfl, hinner⟩ hnames hnodup hfills
    · exact .list _ vs s ⟨inner, rfl, hinner⟩ hlen hfills
  · intro h
    cases h with
    | object ms fs _ hms hnames hnodup hfills =>
      obtain ⟨inner, rfl, hinner⟩ := hms
      exact .inl ⟨_, rfl, inner, ms, fs, rfl, hinner, hnames, hnodup, hfills⟩
    | list vs _ hvs hlen hfills =>
      obtain ⟨inner, rfl, hinner⟩ := hvs
      exact .inr ⟨_, rfl, inner, vs, rfl, hinner, hlen, hfills⟩

theorem record_accepts_document :
    Accepts (record "DeviceSpec" ofObject ofList) (Spaced Document) :=
  (record_accepts ofObject_accepts ofList_accepts).spaced_congr fun _ _ => bracketed_document_iff

theorem document_eq_ok_iff {cs : List Char} {s : DeviceSpec} :
    document cs = .ok s ↔
      ∃ w d w', cs = w ++ d ++ w' ∧ Spaces w ∧ Spaces w' ∧ Document d s := by
  constructor
  · intro h
    rw [document, bind_eq_ok] at h
    obtain ⟨⟨s', rest⟩, hread, h⟩ := h
    rw [bind_eq_ok] at h
    obtain ⟨_, hfinish, h⟩ := h
    cases h
    obtain ⟨_, rfl, w, d, rfl, hw, hd⟩ := record_accepts_document.sound hread
    exact ⟨w, d, rest, rfl, hw, finish_eq_ok_iff.mp hfinish, hd⟩
  · rintro ⟨w, d, w', rfl, hw, hw', hd⟩
    have hends : Ends w' := by
      have := ends_nil.of_spaces hw'
      rwa [List.append_nil] at this
    rw [document, record_accepts_document.complete ⟨w, d, rfl, hw, hd⟩ hends]
    simp [finish_eq_ok_iff.mpr hw']

theorem decode_eq_ok_iff {text : String} {s : DeviceSpec} :
    decode text = .ok s ↔ document text.toList = .ok s := by
  rw [decode]
  split
  case h_1 s' h => simp [h]
  case h_2 fault h => simp [h]

theorem decode_of_document {cs : List Char} {s : DeviceSpec} (h : Document cs s) :
    decode (String.ofList cs) = .ok s := by
  have hread : document cs = .ok s :=
    document_eq_ok_iff.mpr ⟨[], cs, [], by simp, spaces_nil, spaces_nil, h⟩
  rw [decode_eq_ok_iff, String.toList_ofList, hread]

/-- Values of the first fields may be listed or named. -/
theorem decode_eq_ok_iff_denotes :
    (∀ text s, decode text = .ok s ↔ Denotes text s) ∧
      ∀ vs s, Fills empty (Field.all.take vs.length) vs s →
        (∀ cs, Listed (fun v v' => v = v') cs vs → decode (String.ofList cs) = .ok s) ∧
        ∀ cs ms, Membered cs ms → ms.map Prod.snd = vs →
          Names (ms.map Prod.fst) (Field.all.take vs.length) →
          decode (String.ofList cs) = .ok s := by
  refine ⟨?_, ?_⟩
  · intro text s
    rw [decode_eq_ok_iff, document_eq_ok_iff]
    rfl
  · intro vs s hfills
    have hlen : vs.length ≤ Field.all.length := by
      have := hfills.1.length_eq
      rw [List.length_take] at this
      omega
    constructor
    · intro cs hvs
      exact decode_of_document (.list cs vs s hvs hlen hfills)
    · intro cs ms hms hsnd hnames
      rw [← hsnd] at hfills hnames
      refine decode_of_document (.object cs ms _ s hms hnames ?_ hfills)
      exact Field.nodup_all.sublist (List.take_sublist _ _)

example : (decode "[[\"x86\"], [], [], [], 480]").toOption =
    some { supportedAbis := ["x86"], screenDensity := 480 } := by
  decide

example : (decode "\x7b\"screen_density\": 480, \"supportedAbis\": [\"x86\"]\x7d").toOption =
    some { supportedAbis := ["x86"], screenDensity := 480 } := by
  decide

end BundleInspect.DeviceSpec
