import BundleInspect.Proofs.Json.Sequences

/-!
# Values that are cut short

What the readers do where a document ends in the middle of a value of the grammar. A text, a list or
an object that is cut short is told to end too early (`string_starves`, `list_starves`,
`object_starves`). A number may end anywhere, so its reader takes what is there (`integer_exhausts`).
-/

namespace BundleInspect.Json

/-! ## Outcomes -/

section
variable {α β : Type}

/-- Reading stops because the document ends. -/
def Starved (r : Except Fault α) : Prop :=
  ∃ fault, r = .error fault ∧ fault.cause.category = .ending

/-- Reading goes as far as the document does. -/
def Exhausted (r : Except Fault (α × List Char)) : Prop :=
  Starved r ∨ ∃ x, r = .ok (x, [])

theorem starved_stopAt {cause : Cause} (h : cause.category = .ending) (rest : List Char) :
    Starved (stopAt cause rest : Except Fault α) :=
  ⟨_, rfl, h⟩

theorem starved_stopBefore {cause : Cause} (h : cause.category = .ending) (rest : List Char) :
    Starved (stopBefore cause rest : Except Fault α) :=
  ⟨_, rfl, h⟩

theorem Starved.bind {r : Except Fault α} (h : Starved r) (f : α → Except Fault β) :
    Starved (r >>= f) := by
  obtain ⟨fault, rfl, hending⟩ := h
  exact ⟨fault, rfl, hending⟩

theorem Exhausted.bind {r : Except Fault (α × List Char)} (h : Exhausted r)
    {f : α × List Char → Except Fault β} (hf : ∀ x, Starved (f (x, []))) : Starved (r >>= f) := by
  rcases h with hstarved | ⟨x, rfl⟩
  · exact hstarved.bind f
  · exact hf x

theorem Exhausted.map {r : Except Fault (α × List Char)} (h : Exhausted r) (f : α → β) :
    Exhausted (do let (x, rest) ← r; return (f x, rest)) := by
  rcases h with hstarved | ⟨x, rfl⟩
  · exact .inl (hstarved.bind _)
  · exact .inr ⟨f x, rfl⟩

end

/-! ## Readers -/

section
variable {α β : Type} {reader : List Char → Except Fault (α × List Char)}
variable {Value : List Char → α → Prop}

/-- The reader refuses every value that is cut short. -/
def Starves (reader : List Char → Except Fault (α × List Char)) (Value : List Char → α → Prop) :
    Prop :=
  ∀ ⦃p q x⦄, Value (p ++ q) x → q ≠ [] → Starved (reader p)

/-- The reader leaves nothing of a value that is cut short. -/
def Exhausts (reader : List Char → Except Fault (α × List Char)) (Value : List Char → α → Prop) :
    Prop :=
  ∀ ⦃p q x⦄, Value (p ++ q) x → q ≠ [] → Exhausted (reader p)

theorem Starves.exhausts (h : Starves reader Value) : Exhausts reader Value := by
  intro p q x hv hq
  exact .inl (h hv hq)

theorem Exhausts.spaced_map (h : Exhausts reader (Spaced Value)) (f : α → β)
    {Value' : List Char → β → Prop} (hvalue : ∀ v y, Value' v y → ∃ x, Value v x) :
    Exhausts (fun cs => do let (x, rest) ← reader cs; return (f x, rest)) (Spaced Value') := by
  rintro p q y ⟨w, v, heq, hw, hv⟩ hq
  obtain ⟨x, hx⟩ := hvalue v y hv
  exact (h ⟨w, v, heq, hw, hx⟩ hq).map f

end

/-! ## Cuts -/

/-- A cut is in the first piece or behind it. -/
theorem cut_append {p q v w : List Char} (h : p ++ q = v ++ w) :
    (∃ r, r ≠ [] ∧ v = p ++ r) ∨ ∃ r, p = v ++ r ∧ r ++ q = w := by
  rcases List.append_eq_append_iff.mp h with ⟨r, hv, hq⟩ | ⟨r, hp, hw⟩
  · cases r with
    | nil =>
      rw [List.append_nil] at hv
      exact .inr ⟨[], by rw [hv, List.append_nil], hq⟩
    | cons c r => exact .inl ⟨c :: r, List.cons_ne_nil c r, hv⟩
  · exact .inr ⟨r, hp, hw.symm⟩

theorem cut_cons {p q v : List Char} {c : Char} (h : p ++ q = c :: v) :
    p = [] ∨ ∃ r, p = c :: r ∧ r ++ q = v := by
  rcases List.append_eq_cons_iff.mp h with ⟨hp, -⟩ | ⟨r, hp, hv⟩
  · exact .inl hp
  · exact .inr ⟨r, hp, hv.symm⟩

theorem cut_singleton {p q : List Char} {c : Char} (h : p ++ q = [c]) (hq : q ≠ []) : p = [] := by
  rcases cut_cons h with hp | ⟨r, -, hr⟩
  · exact hp
  · exact absurd (List.append_eq_nil_iff.mp hr).2 hq

theorem cut_concat {p q v : List Char} {c : Char} (h : p ++ q = v ++ [c]) (hq : q ≠ []) :
    ∃ r, v = p ++ r := by
  rcases cut_append h with ⟨r, -, hv⟩ | ⟨r, hp, hr⟩
  · exact ⟨r, hv⟩
  · rw [cut_singleton hr hq, List.append_nil] at hp
    exact ⟨[], by rw [hp, List.append_nil]⟩

theorem Ends.of_cut {p q v : List Char} (h : Ends v) (heq : p ++ q = v) : Ends p := by
  rw [← heq] at h
  cases p with
  | nil => exact ends_nil
  | cons c p => exact h

theorem Spaces.of_append {p q : List Char} (h : Spaces (p ++ q)) : Spaces p :=
  (List.forall_mem_append.mp h).1

theorem skipSpace_of_spaces {w : List Char} (h : Spaces w) : skipSpace w = [] := by
  have hnil := skipSpace_append h []
  rwa [List.append_nil] at hnil

/-! ## Starts and words -/

theorem starved_start {w : List Char} (h : Spaces w) : Starved (start w) := by
  unfold start
  rw [skipSpace_of_spaces h]
  exact starved_stopBefore rfl []

theorem spaced_of_value {α : Type} {Value : List Char → α → Prop} {v : List Char} {x : α}
    (h : Value v x) : Spaced Value v x :=
  ⟨[], v, rfl, spaces_nil, h⟩

theorem Spaced.cut {α : Type} {Value : List Char → α → Prop} {p q : List Char} {x : α}
    (h : Spaced Value (p ++ q) x) :
    Spaces p ∨ ∃ w v, p = w ++ v ∧ Spaces w ∧ v ≠ [] ∧ Value (v ++ q) x := by
  obtain ⟨w, v, heq, hw, hv⟩ := h
  rcases cut_append heq with ⟨r, -, rfl⟩ | ⟨r, rfl, rfl⟩
  · exact .inl hw.of_append
  · cases r with
    | nil =>
      left
      rw [List.append_nil]
      exact hw
    | cons c r => exact .inr ⟨w, c :: r, rfl, hw, List.cons_ne_nil c r, hv⟩

theorem start_cut {α : Type} {Value : List Char → α → Prop} (hled : Led Value) {p q : List Char}
    {x : α} (h : Spaced Value (p ++ q) x) :
    Starved (start p) ∨ ∃ c cs, start p = .ok (c :: cs) ∧ Value (c :: cs ++ q) x := by
  rcases h.cut with hp | ⟨w, v, rfl, hw, hne, hv⟩
  · exact .inl (starved_start hp)
  · obtain ⟨c, cs, rfl⟩ := List.exists_cons_of_ne_nil hne
    obtain ⟨_, _, heq, hspace, -⟩ := hled _ x hv
    cases heq
    exact .inr ⟨c, cs, start_of_spaces hw hspace cs, hv⟩

theorem starved_word {p q es : List Char} (h : p ++ q = es) (hq : q ≠ []) :
    Starved (word es p) := by
  induction p generalizing es with
  | nil =>
    obtain ⟨c, q, rfl⟩ := List.exists_cons_of_ne_nil hq
    rw [← h]
    exact starved_stopAt rfl []
  | cons c p ih =>
    rw [← h, List.cons_append, word, if_pos rfl]
    exact ih rfl

/-! ## Texts and truth values -/

theorem utf8Size_of_hexUnit {ds : List Char} {n : Nat} (h : HexUnit ds n) :
    ∀ c ∈ ds, c.utf8Size = 1 := by
  have hvalue := h.2
  unfold Text.valueIn? at hvalue
  split at hvalue
  case isTrue => cases hvalue
  case isFalse =>
    intro c hc
    obtain ⟨d, hd⟩ := Option.isSome_iff_exists.mp (Text.isSome_hexValue?_of_digitsIn? hvalue c hc)
    have hsmall : c.toNat ≤ 127 := by
      rcases Text.hexValue?_eq_some hd with ⟨hdigit, -⟩ | hlow | hhigh
      · have := Text.isDigit_iff.mp hdigit
        omega
      · omega
      · omega
    exact Char.utf8Size_eq_one_iff.mpr hsmall

theorem size_of_utf8Size {cs : List Char} (h : ∀ c ∈ cs, c.utf8Size = 1) : size cs = cs.length := by
  induction cs with
  | nil => rfl
  | cons c cs ih =>
    obtain ⟨hc, hcs⟩ := List.forall_mem_cons.mp h
    have hsize : size (c :: cs) = c.utf8Size + size cs := rfl
    rw [hsize, hc, ih hcs, List.length_cons, Nat.add_comm]

theorem starved_hexUnit {p q : List Char} {n : Nat} (h : HexUnit (p ++ q) n) (hq : q ≠ []) :
    Starved (hexUnit p) := by
  have hlen : p.length < 4 := by
    have := h.1
    have := List.length_pos_iff.mpr hq
    rw [List.length_append] at *
    omega
  have hsize : size (p.take 4) < 4 := by
    rw [List.take_of_length_le (by omega), size_of_utf8Size]
    · exact hlen
    · exact (List.forall_mem_append.mp (utf8Size_of_hexUnit h)).1
  unfold hexUnit
  dsimp only
  split
  case h_1 =>
    simp only [List.length_cons] at hlen
    omega
  case h_2 =>
    rw [if_pos hsize]
    exact starved_stopAt rfl []

theorem starved_secondHalf {p q ds : List Char} {high low : Nat} (h : HexUnit ds low)
    (heq : p ++ q = '\\' :: 'u' :: ds) (hq : q ≠ []) : Starved (secondHalf high p) := by
  rcases cut_cons heq with rfl | ⟨p, rfl, hmore⟩
  · exact starved_stopAt rfl []
  · rcases cut_cons hmore with rfl | ⟨p, rfl, rfl⟩
    · exact starved_stopAt rfl []
    · exact (starved_hexUnit h hq).bind _

theorem starved_stringPiece_of_unicode {p q ds : List Char} (heq : p ++ q = '\\' :: 'u' :: ds)
    (h : ∀ p', p' ++ q = ds → Starved (unicodeEscape p')) : Starved (stringPiece p) := by
  rcases cut_cons heq with rfl | ⟨p, rfl, hmore⟩
  · exact starved_stopAt rfl []
  · rcases cut_cons hmore with rfl | ⟨p, rfl, rfl⟩
    · exact Starved.bind (starved_stopAt rfl []) _
    · exact (h p rfl).bind _

theorem starved_stringPiece {p q : List Char} {c : Char} (h : Piece (p ++ q) c) (hq : q ≠ []) :
    Starved (stringPiece p) := by
  generalize heq : p ++ q = v at h
  cases h with
  | plain =>
    rw [cut_singleton heq hq]
    exact starved_stopAt rfl []
  | short letter =>
    rcases cut_cons heq with rfl | ⟨p, rfl, hletter⟩
    · exact starved_stopAt rfl []
    · rw [cut_singleton hletter hq]
      exact Starved.bind (starved_stopAt rfl []) _
  | unit ds _ hds =>
    apply starved_stringPiece_of_unicode heq
    rintro p rfl
    exact (starved_hexUnit hds hq).bind _
  | halves ds ds' high low _ hds hds' h1 h2 h3 h4 hc =>
    apply starved_stringPiece_of_unicode heq
    intro p heq
    rcases cut_append heq with ⟨r, hr, rfl⟩ | ⟨r, rfl, hr⟩
    · exact (starved_hexUnit hds hr).bind _
    · have hunit : hexUnit (ds ++ r) = .ok (high, r) := hexUnit_eq_ok_iff.mpr ⟨ds, rfl, hds⟩
      have hlow : isLowSurrogate high = false := by simp [isLowSurrogate]; omega
      have hhigh : isHighSurrogate high = true := by simp [isHighSurrogate, h1, h2]
      have hsecond : Starved (secondHalf high r) := starved_secondHalf hds' hr hq
      simpa [unicodeEscape, hunit, hlow, hhigh] using hsecond

theorem starved_stringPieces {body text : List Char} (h : Pieces body text) {p q : List Char}
    (heq : p ++ q = body ++ ['"']) (hq : q ≠ []) (fuel : Nat) : Starved (stringPieces fuel p) := by
  induction h generalizing p fuel with
  | nil =>
    obtain rfl := cut_singleton heq hq
    cases fuel with
    | zero => exact starved_stopAt rfl []
    | succ fuel => exact Starved.bind (starved_stopAt rfl []) _
  | cons piece ps c cs hpiece _ ih =>
    cases fuel with
    | zero => exact starved_stopAt rfl p
    | succ fuel =>
      rw [List.append_assoc] at heq
      rcases cut_append heq with ⟨r, hr, rfl⟩ | ⟨r, rfl, hr⟩
      · exact (starved_stringPiece hpiece hr).bind _
      · rw [stringPieces, stringPiece_of_piece hpiece, ok_bind]
        exact (ih hr fuel).bind _

theorem string_starves :
    Starves string fun v text => ∃ body, v = body ++ ['"'] ∧ Pieces body text.toList := by
  rintro p q text ⟨body, heq, hbody⟩ hq
  exact (starved_stringPieces hbody heq hq _).bind _

theorem starved_string_of_quoted {p q : List Char} {text : String} (h : Quoted ('"' :: p ++ q) text)
    (hq : q ≠ []) : Starved (string p) := by
  obtain ⟨body, heq, hbody⟩ := h
  exact string_starves ⟨body, (List.cons.inj heq).2, hbody⟩ hq

theorem text_starves : Starves text (Spaced Quoted) := by
  intro p q x h hq
  unfold text
  rcases start_cut quoted_led h with hstarved | ⟨c, cs, hstart, hx⟩
  · exact hstarved.bind _
  · obtain rfl : c = '"' := hx.head
    rw [hstart, ok_bind]
    exact starved_string_of_quoted hx hq

theorem boolean_starves : Starves boolean (Spaced Truth) := by
  intro p q b h hq
  unfold boolean
  rcases start_cut truth_led h with hstarved | ⟨c, cs, hstart, hb⟩
  · exact hstarved.bind _
  · rw [hstart, ok_bind]
    generalize heq : c :: cs ++ q = v at hb
    cases hb with
    | yes | no =>
      obtain ⟨rfl, hrest⟩ := List.cons.inj heq
      exact (starved_word hrest hq).bind _

/-! ## Integers -/

theorem exists_digitsIn?_of_append {radix value n : Nat} {p q : List Char}
    (h : Text.digitsIn? radix value (p ++ q) = some n) :
    ∃ m, Text.digitsIn? radix value p = some m ∧ Text.digitsIn? radix m q = some n := by
  induction p generalizing value with
  | nil => exact ⟨value, rfl, h⟩
  | cons c p ih =>
    simp only [List.cons_append, Text.digitsIn?, Option.bind_eq_bind, Option.bind_eq_some_iff] at h
    obtain ⟨d, hd, h⟩ := h
    obtain ⟨m, hp, hq⟩ := ih h
    exact ⟨m, by simp [Text.digitsIn?, hd, hp], hq⟩

/-- There are no leading zeros, so what is left is not zero. -/
theorem decimal_cut {p q : List Char} {n : Nat} (h : Decimal (p ++ q) n) (hp : p ≠ [])
    (hq : q ≠ []) : ∃ m, Decimal p m ∧ m ≠ 0 ∧ m ≤ n := by
  obtain ⟨hvalue, hzero⟩ := h
  obtain ⟨c, p, rfl⟩ := List.exists_cons_of_ne_nil hp
  have hc : c ≠ '0' := by
    rintro rfl
    cases cut_singleton (hzero rfl) hq
  rw [Text.valueIn?, if_neg (by simp)] at hvalue
  obtain ⟨m, hm, hn⟩ := exists_digitsIn?_of_append hvalue
  refine ⟨m, ⟨?_, ?_⟩, ?_, digitsIn?_le hn⟩
  · rw [Text.valueIn?, if_neg hp]
    exact hm
  · intro hhead
    exact absurd (Option.some.inj hhead) hc
  · have hdigit := isDigit_of_digitsIn? hm c List.mem_cons_self
    have hrange := Text.isDigit_iff.mp hdigit
    have hne : c.toNat ≠ 48 := fun heq => hc (Char.toNat_inj.mp heq)
    simp only [Text.digitsIn?, digitIn?_eq_digitValue, hdigit, if_true, Option.bind_eq_bind,
      Option.bind_some] at hm
    have hle := digitsIn?_le hm
    unfold digitValue at hle
    omega

theorem integral_cut {p q : List Char} {i : Int} (h : Integral (p ++ q) i) (hp : p ≠ [])
    (hq : q ≠ []) : p = ['-'] ∨ ∃ j, Integral p j ∧ (0 ≤ j ∧ j ≤ i ∨ i ≤ j ∧ j ≤ 0) := by
  generalize heq : p ++ q = v at h
  cases h with
  | natural _ n hn =>
    rw [← heq] at hn
    obtain ⟨m, hm, -, hle⟩ := decimal_cut hn hp hq
    exact .inr ⟨m, .natural p m hm, by omega⟩
  | negative ds n hn =>
    rcases cut_cons heq with hnil | ⟨r, rfl, rfl⟩
    · exact absurd hnil hp
    · by_cases hr : r = []
      · left
        rw [hr]
      · obtain ⟨m, hm, hzero, hle⟩ := decimal_cut hn hr hq
        exact .inr ⟨-m, .negative r m hm hzero, by omega⟩

theorem starved_number_sign : Starved (number ['-']) :=
  starved_stopAt rfl []

theorem start_sign {w : List Char} (hw : Spaces w) : start (w ++ ['-']) = .ok ['-'] :=
  start_of_spaces hw rfl []

theorem integer_exhausts {wanted : Wanted} {low high : Int} (hlow : -0x8000000000000000 ≤ low)
    (hhigh : high < 0x10000000000000000) (hzero : low ≤ 0 ∧ 0 ≤ high) :
    Exhausts (integer wanted low high) (Spaced (Within low high)) := by
  intro p q i h hq
  rcases h.cut with hp | ⟨w, v, rfl, hw, hv, hi, hbounds⟩
  · exact .inl ((starved_start hp).bind _)
  · rcases integral_cut hi hv hq with rfl | ⟨j, hj, hrange⟩
    · left
      unfold integer
      rw [start_sign hw, ok_bind]
      exact starved_number_sign.bind _
    · have hwithin : Within low high v j := ⟨hj, by omega, by omega⟩
      have hread : integer wanted low high (w ++ v ++ []) = _ :=
        (integer_accepts hlow hhigh).complete ⟨w, v, rfl, hw, hwithin⟩ ends_nil
      rw [List.append_nil] at hread
      exact .inr ⟨j, hread⟩

theorem unsigned32_exhausts :
    Exhausts unsigned32 (Spaced fun v (n : UInt32) => Integral v n.toNat) := by
  have hread : Exhausts (integer .unsigned32 0 0xffffffff) _ :=
    integer_exhausts (by decide) (by decide) (by decide)
  apply hread.spaced_map fun i => UInt32.ofNat i.toNat
  intro v n hn
  have hlt := n.toNat_lt
  exact ⟨n.toNat, hn, by omega, by omega⟩

theorem signed32_exhausts : Exhausts signed32 (Spaced fun v (n : Int32) => Integral v n.toInt) := by
  have hread : Exhausts (integer .signed32 (-0x80000000) 0x7fffffff) _ :=
    integer_exhausts (by decide) (by decide) (by decide)
  apply hread.spaced_map fun i => Int32.ofInt i
  intro v n hn
  have hlow := n.minValue_le_toInt
  have hhigh := n.toInt_lt
  exact ⟨n.toInt, hn, hlow, by omega⟩

/-! ## Values of more than one kind -/

theorem optional_exhausts {α : Type} {item : List Char → Except Fault (α × List Char)}
    {Value : List Char → α → Prop} (h : Exhausts item (Spaced Value)) (hnil : Starved (item []))
    (hled : Led Value) (hnull : ∀ cs x, ¬ Value ('n' :: cs) x) :
    Exhausts (optional item) (Spaced (Nullable Value)) := by
  intro p q x hx hq
  unfold optional
  rcases hx.cut with hp | ⟨w, v, rfl, hw, hne, hv⟩
  · rw [skipSpace_of_spaces hp]
    exact .inl (hnil.bind _)
  · rw [skipSpace_append hw]
    generalize heq : v ++ q = cs at hv
    cases hv with
    | null =>
      rcases cut_cons heq with hempty | ⟨r, rfl, hr⟩
      · exact absurd hempty hne
      · rw [skipSpace_cons rfl]
        exact .inl ((starved_word hr hq).bind _)
    | value _ y hy =>
      rw [← heq] at hy
      obtain ⟨c, r, rfl⟩ := List.exists_cons_of_ne_nil hne
      obtain ⟨_, _, hcons, hspace, -⟩ := hled _ y hy
      cases hcons
      have hitem := (h (spaced_of_value hy) hq).map some
      rw [skipSpace_cons hspace]
      split
      case h_1 hn =>
        cases hn
        exact absurd hy (hnull _ y)
      case h_2 => exact hitem

theorem record_starves {α : Type} {name : String}
    {ofObject ofList : List Char → Except Fault (α × List Char)}
    {Members Elements : List Char → α → Prop} (hobject : Starves ofObject Members)
    (hlist : Starves ofList Elements) :
    Starves (record name ofObject ofList) (Spaced (Bracketed Members Elements)) := by
  intro p q x h hq
  unfold record
  rcases start_cut bracketed_led h with hstarved | ⟨c, cs, hstart, hx⟩
  · exact hstarved.bind _
  · rw [hstart, ok_bind]
    rcases hx with ⟨t, heq, ht⟩ | ⟨t, heq, ht⟩
    · obtain ⟨rfl, rfl⟩ := List.cons.inj heq
      exact hobject ht hq
    · obtain ⟨rfl, rfl⟩ := List.cons.inj heq
      exact hlist ht hq

end BundleInspect.Json
