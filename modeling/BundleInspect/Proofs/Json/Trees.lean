import BundleInspect.Proofs.Json.Sequences
import Mathlib.Data.List.Forall2

/-!
# Texts and their trees

What a JSON text is made of once the spaces between its tokens are left out. `spelled_unambiguous`:
a text spells one tree at most, and it can be told where it ends.
-/

namespace BundleInspect.Json

/-- Members are in order, with their keys as they are written. -/
inductive Tree where
  | token (cs : List Char)
  | list (items : List Tree)
  | object (members : List (List Char × Tree))

/-! ## Tokens -/

/-- Nothing is said about which characters four hexadecimal digits may stand for. -/
inductive Letters : List Char → Prop where
  | nil : Letters []
  | plain (c : Char) (cs : List Char) :
    0x20 ≤ c.toNat → c ≠ '"' → c ≠ '\\' → Letters cs → Letters (c :: cs)
  | short (letter c : Char) (cs : List Char) :
    (letter, c) ∈ shortEscapes → Letters cs → Letters ('\\' :: letter :: cs)
  | unit (ds cs : List Char) (n : Nat) :
    HexUnit ds n → Letters cs → Letters ('\\' :: 'u' :: ds ++ cs)

def StringToken (cs : List Char) : Prop :=
  ∃ body, cs = '"' :: body ++ ['"'] ∧ Letters body

def Digits (ds : List Char) : Prop :=
  ∃ n, Text.valueIn? 10 ds = some n

inductive Fraction : List Char → Prop where
  | absent : Fraction []
  | digits (ds : List Char) : Digits ds → Fraction ('.' :: ds)

inductive Exponent : List Char → Prop where
  | absent : Exponent []
  | digits (mark : Char) (sign ds : List Char) :
    mark ∈ ['e', 'E'] → sign ∈ [[], ['+'], ['-']] → Digits ds → Exponent (mark :: sign ++ ds)

inductive NumberToken : List Char → Prop where
  | mk (sign ds fraction exponent : List Char) (n : Nat) :
    sign ∈ [[], ['-']] → Decimal ds n → Fraction fraction → Exponent exponent →
      NumberToken (sign ++ ds ++ fraction ++ exponent)

def wordTokens : List (List Char) :=
  [['t', 'r', 'u', 'e'], ['f', 'a', 'l', 's', 'e'], null]

def Bare (cs : List Char) : Prop :=
  NumberToken cs ∨ cs ∈ wordTokens

def Token (cs : List Char) : Prop :=
  StringToken cs ∨ Bare cs

/-! ## Trees -/

def KeyValue (Value : List Char → Tree → Prop) (cs : List Char) (m : List Char × Tree) : Prop :=
  ∃ a v, cs = m.1 ++ a ∧ StringToken m.1 ∧ Assigned a v ∧ Value v m.2

/-- The characters of a tree, given those of the trees in it. -/
inductive Layer (Value : List Char → Tree → Prop) : List Char → Tree → Prop where
  | token (cs : List Char) : Token cs → Layer Value cs (.token cs)
  | list (inner : List Char) (items : List Tree) :
    Items Value true inner items → Layer Value ('[' :: inner ++ [']']) (.list items)
  | object (inner : List Char) (ms : List (List Char × Tree)) :
    Items (KeyValue Value) true inner ms → Layer Value ('\x7b' :: inner ++ ['\x7d']) (.object ms)

/-- The characters of a tree with less than so many levels. -/
def Levels : Nat → List Char → Tree → Prop
  | 0 => fun _ _ => False
  | depth + 1 => Layer (Levels depth)

def Spelled (cs : List Char) (t : Tree) : Prop :=
  ∃ depth, Levels depth cs t

def TreeText (text : String) (t : Tree) : Prop :=
  ∃ w cs w', text.toList = w ++ cs ++ w' ∧ Spaces w ∧ Spaces w' ∧ Spelled cs t

def ObjectText (text : String) (ms : List (List Char × Tree)) : Prop :=
  ∃ w cs w', text.toList = w ++ cs ++ w' ∧ Spaces w ∧ Spaces w' ∧ Spelled cs (.object ms)

/-! ## Spaces -/

/-- No space comes first. -/
def Solid (cs : List Char) : Prop :=
  ∀ c ∈ cs.head?, isSpace c = false

theorem solid_cons {c : Char} (h : isSpace c = false) (cs : List Char) : Solid (c :: cs) := by
  rintro _ ⟨⟩
  exact h

theorem skipSpace_of_solid {cs : List Char} (h : Solid cs) : skipSpace cs = cs := by
  cases cs with
  | nil => rfl
  | cons c cs => exact skipSpace_cons (h c rfl) cs

theorem Spaces.unique {w w' cs cs' : List Char} (hw : Spaces w) (hw' : Spaces w') (hcs : Solid cs)
    (hcs' : Solid cs') (heq : w ++ cs = w' ++ cs') : w = w' ∧ cs = cs' := by
  have hskip := congrArg skipSpace heq
  rw [skipSpace_append hw, skipSpace_append hw', skipSpace_of_solid hcs,
    skipSpace_of_solid hcs'] at hskip
  rw [hskip] at heq
  exact ⟨List.append_cancel_right heq, hskip⟩

theorem Gap.unique {first : Bool} {gap gap' cs cs' : List Char} (h : Gap first gap)
    (h' : Gap first gap') (hcs : Solid cs) (hcs' : Solid cs') (heq : gap ++ cs = gap' ++ cs') :
    gap = gap' ∧ cs = cs' := by
  cases h with
  | first _ hw =>
    cases h' with
    | first _ hw' => exact hw.unique hw' hcs hcs' heq
  | comma w₁ w₂ hw₁ hw₂ =>
    cases h' with
    | comma w₁' w₂' hw₁' hw₂' =>
      rw [List.append_assoc, List.append_assoc] at heq
      obtain ⟨rfl, hcomma⟩ := hw₁.unique hw₁' (solid_cons rfl _) (solid_cons rfl _) heq
      obtain ⟨rfl, hmore⟩ := hw₂.unique hw₂' hcs hcs' (List.cons.inj hcomma).2
      exact ⟨rfl, hmore⟩

def closings : List Char :=
  [']', '\x7d']

theorem isSpace_of_mem_closings : ∀ close ∈ closings, isSpace close = false := by
  simp [closings, isSpace]

theorem Gap.append_ne {first : Bool} {gap w cs rest : List Char} {close : Char}
    (h : Gap first gap) (hw : Spaces w) (hclose : close ∈ closings) (hcs : Solid cs)
    (hne : cs.head? ≠ some close) : w ++ close :: rest ≠ gap ++ cs := by
  intro heq
  have hsolid : Solid (close :: rest) := solid_cons (isSpace_of_mem_closings close hclose) rest
  cases h with
  | first _ hgap =>
    obtain ⟨-, rfl⟩ := hw.unique hgap hsolid hcs heq
    exact hne rfl
  | comma w₁ w₂ hw₁ _ =>
    rw [List.append_assoc] at heq
    obtain ⟨-, hmore⟩ := hw.unique hw₁ hsolid (solid_cons rfl _) heq
    rw [(List.cons.inj hmore).1] at hclose
    revert hclose
    decide

/-! ## Where values end -/

def delimiters : List Char :=
  [' ', '\n', '\t', '\r', ',', ']', '\x7d']

def Delimited (rest : List Char) : Prop :=
  ∀ c ∈ rest.head?, c ∈ delimiters

theorem closings_subset : closings ⊆ delimiters := by
  decide

theorem delimited_of_spaces {w rest : List Char} (hw : Spaces w) (h : Delimited rest) :
    Delimited (w ++ rest) := by
  cases w with
  | nil => exact h
  | cons c w =>
    rintro _ ⟨⟩
    have hc := hw c List.mem_cons_self
    simp only [List.mem_cons, List.not_mem_nil, or_false] at hc
    rcases hc with rfl | rfl | rfl | rfl <;> decide

theorem delimited_nil : Delimited [] :=
  nofun

theorem Spaces.delimited {w : List Char} (h : Spaces w) : Delimited w := by
  have hdelimited := delimited_of_spaces h delimited_nil
  rwa [List.append_nil] at hdelimited

theorem delimited_cons {c : Char} (h : c ∈ delimiters) (rest : List Char) :
    Delimited (c :: rest) := by
  rintro _ ⟨⟩
  exact h

theorem Items.delimited {α : Type} {Item : List Char → α → Prop} {inner rest : List Char}
    {xs : List α} (h : Items Item false inner xs) (hrest : Delimited rest) :
    Delimited (inner ++ rest) :=
  h.follow (fun _ _ => delimited_of_spaces) (delimited_cons (by decide)) hrest

/-! ## Tokens end in one place -/

theorem Letters.unique {body body' r r' : List Char} (h : Letters body) (h' : Letters body')
    (heq : body ++ '"' :: r = body' ++ '"' :: r') : body = body' ∧ r = r' := by
  induction h generalizing body' with
  | nil =>
    cases h' with
    | nil => exact ⟨rfl, by simpa using heq⟩
    | plain c cs _ hquote => exact absurd (List.cons.inj heq).1.symm hquote
    | short letter c cs => cases (List.cons.inj heq).1
    | unit ds cs n => cases (List.cons.inj heq).1
  | plain c cs _ hquote hslash _ ih =>
    cases h' with
    | nil => exact absurd (List.cons.inj heq).1 hquote
    | plain c' cs' _ _ _ hcs' =>
      obtain ⟨rfl, hmore⟩ := List.cons.inj heq
      obtain ⟨rfl, hr⟩ := ih hcs' hmore
      exact ⟨rfl, hr⟩
    | short letter c cs => exact absurd (List.cons.inj heq).1 hslash
    | unit ds cs n => exact absurd (List.cons.inj heq).1 hslash
  | short letter c cs hletter _ ih =>
    have hu : letter ≠ 'u' := by
      rintro rfl
      revert hletter
      simp [shortEscapes]
    cases h' with
    | nil => cases (List.cons.inj heq).1
    | plain c' cs' _ _ hslash => exact absurd (List.cons.inj heq).1.symm hslash
    | short letter' c' cs' _ hcs' =>
      obtain ⟨rfl, hmore⟩ := List.cons.inj (List.cons.inj heq).2
      obtain ⟨rfl, hr⟩ := ih hcs' hmore
      exact ⟨rfl, hr⟩
    | unit ds cs' n => exact absurd (List.cons.inj (List.cons.inj heq).2).1 hu
  | unit ds cs n hds _ ih =>
    cases h' with
    | nil => cases (List.cons.inj heq).1
    | plain c' cs' _ _ hslash => exact absurd (List.cons.inj heq).1.symm hslash
    | short letter c cs' hletter =>
      have hu := (List.cons.inj (List.cons.inj heq).2).1
      rw [← hu] at hletter
      revert hletter
      simp [shortEscapes]
    | unit ds' cs' n' hds' hcs' =>
      have hunit : ds ++ (cs ++ '"' :: r) = ds' ++ (cs' ++ '"' :: r') := by simpa using heq
      obtain ⟨rfl, hmore⟩ := List.append_inj hunit (hds.1.trans hds'.1.symm)
      obtain ⟨rfl, hr⟩ := ih hcs' hmore
      exact ⟨rfl, hr⟩

theorem StringToken.unique {v v' r r' : List Char} (h : StringToken v) (h' : StringToken v')
    (heq : v ++ r = v' ++ r') : v = v' ∧ r = r' := by
  obtain ⟨body, rfl, hbody⟩ := h
  obtain ⟨body', rfl, hbody'⟩ := h'
  have hmore : body ++ '"' :: r = body' ++ '"' :: r' := by simpa using heq
  obtain ⟨rfl, hr⟩ := hbody.unique hbody' hmore
  exact ⟨rfl, hr⟩

theorem isDigit_of_digits {ds : List Char} (h : Digits ds) : ∀ c ∈ ds, c.isDigit = true := by
  obtain ⟨n, hn⟩ := h
  exact (digit_of_valueIn? hn).2

def isBare (c : Char) : Bool :=
  c.isDigit || "-+.eEtrufalsn".toList.contains c

theorem isBare_of_digits {ds : List Char} (h : Digits ds) : ∀ c ∈ ds, isBare c = true := by
  intro c hc
  rw [isBare, isDigit_of_digits h c hc, Bool.true_or]

theorem NumberToken.forall_isBare {cs : List Char} (h : NumberToken cs) :
    ∀ c ∈ cs, isBare c = true := by
  obtain ⟨sign, ds, fraction, exponent, n, hsign, hds, hfraction, hexponent⟩ := h
  have hsigns : ∀ sign ∈ [[], ['+'], ['-']], sign.all isBare = true := by decide
  have hsubset : [[], ['-']] ⊆ [[], ['+'], ['-']] := by decide
  refine List.forall_mem_append.mpr ⟨List.forall_mem_append.mpr ⟨List.forall_mem_append.mpr
    ⟨List.all_eq_true.mp (hsigns sign (hsubset hsign)), isBare_of_digits ⟨n, hds.1⟩⟩, ?_⟩, ?_⟩
  · cases hfraction with
    | absent => simp
    | digits ds hds => exact List.forall_mem_cons.mpr ⟨rfl, isBare_of_digits hds⟩
  · cases hexponent with
    | absent => simp
    | digits mark sign ds hmark hsign hds =>
      have hmarks : ['e', 'E'].all isBare = true := by decide
      exact List.forall_mem_cons.mpr ⟨List.all_eq_true.mp hmarks mark hmark,
        List.forall_mem_append.mpr
          ⟨List.all_eq_true.mp (hsigns sign hsign), isBare_of_digits hds⟩⟩

theorem Bare.forall_isBare {cs : List Char} (h : Bare cs) : ∀ c ∈ cs, isBare c = true := by
  rcases h with hnumber | hword
  · exact hnumber.forall_isBare
  · have hwords : ∀ cs ∈ wordTokens, cs.all isBare = true := by decide
    exact List.all_eq_true.mp (hwords cs hword)

theorem Bare.ne_nil {cs : List Char} (h : Bare cs) : cs ≠ [] := by
  rcases h with ⟨sign, ds, fraction, exponent, n, -, hds, -, -⟩ | hword
  · obtain ⟨c, more, rfl, -⟩ := decimal_starts hds
    simp
  · revert cs
    decide

theorem ne_of_isBare {c mark : Char} (h : isBare c = true) (hmark : isBare mark = false) :
    c ≠ mark := by
  rintro rfl
  rw [h] at hmark
  cases hmark

theorem isBare_of_mem_delimiters {c : Char} (h : c ∈ delimiters) : isBare c = false := by
  have hnone : delimiters.all (!isBare ·) = true := by decide
  simpa using List.all_eq_true.mp hnone c h

theorem takeWhile_isBare {cs rest : List Char} (hcs : Bare cs) (hrest : Delimited rest) :
    (cs ++ rest).takeWhile isBare = cs := by
  rw [List.takeWhile_append_of_pos hcs.forall_isBare]
  cases rest with
  | nil => simp
  | cons c rest => simp [isBare_of_mem_delimiters (hrest c rfl)]

theorem Bare.append_ne {v r cs : List Char} {c : Char} (h : Bare v) (hc : isBare c = false) :
    v ++ r ≠ c :: cs := by
  obtain ⟨c', cs', rfl⟩ := List.exists_cons_of_ne_nil h.ne_nil
  intro heq
  exact ne_of_isBare (h.forall_isBare c' List.mem_cons_self) hc (List.cons.inj heq).1

theorem Token.unique {v v' r r' : List Char} (h : Token v) (h' : Token v') (hr : Delimited r)
    (hr' : Delimited r') (heq : v ++ r = v' ++ r') : v = v' := by
  rcases h with hstring | hbare
  · rcases h' with hstring' | hbare'
    · exact (hstring.unique hstring' heq).1
    · obtain ⟨body, rfl, -⟩ := hstring
      exact absurd heq.symm (hbare'.append_ne rfl)
  · rcases h' with hstring' | hbare'
    · obtain ⟨body, rfl, -⟩ := hstring'
      exact absurd heq (hbare.append_ne rfl)
    · rw [← takeWhile_isBare hbare hr, heq, takeWhile_isBare hbare' hr']

theorem Token.append_ne {v r cs : List Char} {c : Char} (h : Token v) (hquote : c ≠ '"')
    (hc : isBare c = false) : v ++ r ≠ c :: cs := by
  rcases h with ⟨body, rfl, -⟩ | hbare
  · exact fun heq => hquote (List.cons.inj heq).1.symm
  · exact hbare.append_ne hc

/-! ## Items of two grammars -/

theorem Items.imp {α : Type} {Item Item' : List Char → α → Prop} {first : Bool}
    {inner : List Char} {xs : List α} (h : Items Item first inner xs)
    (himp : ∀ v x, Item v x → Item' v x) : Items Item' first inner xs := by
  induction h with
  | done first w hw => exact .done first w hw
  | next first gap v more x xs hgap hv _ ih =>
    exact .next first gap v more x xs hgap (himp v x hv) ih

theorem Items.exists_forall₂ {α β γ : Type} {Item : List Char → α → Prop}
    {Item' : List Char → β → Prop} {P : α → γ → Prop} {Q : β → γ → Prop} {first : Bool}
    {inner : List Char} {xs : List α} {zs : List γ} (h : Items Item first inner xs)
    (hxs : List.Forall₂ P xs zs)
    (hitem : ∀ v x z, Item v x → P x z → ∃ y, Item' v y ∧ Q y z) :
    ∃ ys, Items Item' first inner ys ∧ List.Forall₂ Q ys zs := by
  induction h generalizing zs with
  | done first w hw =>
    cases hxs with
    | nil => exact ⟨[], .done first w hw, .nil⟩
  | next first gap v more x xs hgap hv _ ih =>
    cases hxs with
    | cons hx hxs =>
      obtain ⟨y, hy, hq⟩ := hitem v x _ hv hx
      obtain ⟨ys, hys, hqs⟩ := ih hxs
      exact ⟨y :: ys, .next first gap v more y ys hgap hy hys, .cons hq hqs⟩

/-! ## Items end in one place -/

/-- Values in front of the same text are the same. -/
def Unambiguous {α : Type} (Value Value' : List Char → α → Prop) : Prop :=
  ∀ {v v' r r' x x'}, Value v x → Value' v' x' → Delimited r → Delimited r' → v ++ r = v' ++ r' →
    v = v' ∧ x = x'

/-- No value starts with a space or with the end of the items. -/
def Opens {α : Type} (close : Char) (Value : List Char → α → Prop) : Prop :=
  ∀ {v x}, Value v x → ∃ c cs, v = c :: cs ∧ isSpace c = false ∧ c ≠ close

section
variable {α : Type} {Item Item' : List Char → α → Prop} {close : Char} {v : List Char} {x : α}

theorem Opens.solid (h : Opens close Item) (hv : Item v x) (rest : List Char) :
    Solid (v ++ rest) := by
  obtain ⟨c, cs, rfl, hc, -⟩ := h hv
  exact solid_cons hc _

theorem Opens.head?_ne (h : Opens close Item) (hv : Item v x) (rest : List Char) :
    (v ++ rest).head? ≠ some close := by
  obtain ⟨c, cs, rfl, -, hne⟩ := h hv
  simpa using hne

theorem Items.unique (hitem : Unambiguous Item Item') (hclose : close ∈ closings)
    (hopens : Opens close Item) (hopens' : Opens close Item') {first : Bool}
    {inner inner' r r' : List Char} {xs xs' : List α} (h : Items Item first inner xs)
    (h' : Items Item' first inner' xs') (heq : inner ++ close :: r = inner' ++ close :: r') :
    inner = inner' ∧ xs = xs' ∧ r = r' := by
  have hsolid (rest : List Char) : Solid (close :: rest) :=
    solid_cons (isSpace_of_mem_closings close hclose) rest
  have hends (rest : List Char) : Delimited (close :: rest) :=
    delimited_cons (closings_subset hclose) rest
  induction h generalizing inner' xs' with
  | done first w hw =>
    cases h' with
    | done _ _ hw' =>
      obtain ⟨rfl, hr⟩ := hw.unique hw' (hsolid r) (hsolid r') heq
      exact ⟨rfl, rfl, (List.cons.inj hr).2⟩
    | next _ gap v more x xs hgap hv _ =>
      rw [List.append_assoc, List.append_assoc] at heq
      exact absurd heq (hgap.append_ne hw hclose (hopens'.solid hv _) (hopens'.head?_ne hv _))
  | next first gap v more x xs hgap hv hmore ih =>
    cases h' with
    | done _ _ hw' =>
      rw [List.append_assoc, List.append_assoc] at heq
      exact absurd heq.symm (hgap.append_ne hw' hclose (hopens.solid hv _) (hopens.head?_ne hv _))
    | next _ gap' v' more' x' xs' hgap' hv' hmore' =>
      rw [List.append_assoc, List.append_assoc, List.append_assoc, List.append_assoc] at heq
      obtain ⟨rfl, hvalues⟩ := hgap.unique hgap' (hopens.solid hv _) (hopens'.solid hv' _) heq
      obtain ⟨rfl, rfl⟩ := hitem hv hv' (hmore.delimited (hends r)) (hmore'.delimited (hends r'))
        hvalues
      obtain ⟨rfl, rfl, hr⟩ := ih hmore' (List.append_cancel_left hvalues)
      exact ⟨rfl, rfl, hr⟩

end

/-! ## Trees end in one place -/

theorem keyValue_opens {Value : List Char → Tree → Prop} : Opens '\x7d' (KeyValue Value) := by
  rintro _ m ⟨a, v, rfl, ⟨body, hkey, -⟩, -⟩
  rw [hkey]
  exact ⟨'"', body ++ ['"'] ++ a, rfl, rfl, by decide⟩

theorem token_opens {cs : List Char} (h : Token cs) :
    ∃ c more, cs = c :: more ∧ isSpace c = false ∧ c ≠ ']' := by
  rcases h with ⟨body, rfl, -⟩ | hbare
  · exact ⟨'"', body ++ ['"'], rfl, rfl, by decide⟩
  · obtain ⟨c, more, rfl⟩ := List.exists_cons_of_ne_nil hbare.ne_nil
    have hc := hbare.forall_isBare c List.mem_cons_self
    refine ⟨c, more, rfl, ?_, ne_of_isBare hc rfl⟩
    by_contra hspace
    rw [Bool.not_eq_false, isSpace_eq_true_iff] at hspace
    have hsubset : [' ', '\n', '\t', '\r'] ⊆ delimiters := by decide
    exact ne_of_isBare hc (isBare_of_mem_delimiters (hsubset hspace)) rfl

theorem layer_opens {Value : List Char → Tree → Prop} : Opens ']' (Layer Value) := by
  intro v t h
  cases h with
  | token _ hcs => exact token_opens hcs
  | list inner => exact ⟨'[', inner ++ [']'], rfl, rfl, by decide⟩
  | object inner => exact ⟨'\x7b', inner ++ ['\x7d'], rfl, rfl, by decide⟩

section
variable {Value Value' : List Char → Tree → Prop}

theorem keyValue_unambiguous (h : Unambiguous Value Value') (hopens : Opens ']' Value)
    (hopens' : Opens ']' Value') : Unambiguous (KeyValue Value) (KeyValue Value') := by
  rintro _ _ r r' ⟨key, t⟩ ⟨key', t'⟩ ⟨_, v, rfl, hkey, ⟨w, w₁, rfl, hw, hw₁⟩, hv⟩
    ⟨_, v', rfl, hkey', ⟨w', w₁', rfl, hw', hw₁'⟩, hv'⟩ hr hr' heq
  dsimp only at hkey hv hkey' hv' heq ⊢
  rw [List.append_assoc, List.append_assoc key'] at heq
  obtain ⟨hkeys, hassigned⟩ := hkey.unique hkey' heq
  simp only [List.append_assoc, List.cons_append] at hassigned
  obtain ⟨rfl, hcolon⟩ := hw.unique hw' (solid_cons rfl _) (solid_cons rfl _) hassigned
  obtain ⟨rfl, hvalue⟩ := hw₁.unique hw₁' (hopens.solid hv _) (hopens'.solid hv' _)
    (List.cons.inj hcolon).2
  obtain ⟨rfl, rfl⟩ := h hv hv' hr hr' hvalue
  rw [hkeys]
  exact ⟨rfl, rfl⟩

theorem layer_unambiguous (h : Unambiguous Value Value') (hopens : Opens ']' Value)
    (hopens' : Opens ']' Value') : Unambiguous (Layer Value) (Layer Value') := by
  intro v v' r r' t t' hv hv' hr hr' heq
  -- The first character tells tokens, lists and objects apart.
  cases hv with
  | token _ htoken =>
    cases hv' with
    | token _ htoken' =>
      obtain rfl := htoken.unique htoken' hr hr' heq
      exact ⟨rfl, rfl⟩
    | list | object => exact absurd heq (htoken.append_ne (by decide) rfl)
  | list inner items hitems =>
    cases hv' with
    | token _ htoken' => exact absurd heq.symm (htoken'.append_ne (by decide) rfl)
    | list inner' items' hitems' =>
      have hinner : inner ++ ']' :: r = inner' ++ ']' :: r' := by simpa using heq
      obtain ⟨rfl, rfl, -⟩ := hitems.unique h (by decide) hopens hopens' hitems' hinner
      exact ⟨rfl, rfl⟩
    | object => cases (List.cons.inj heq).1
  | object inner ms hms =>
    cases hv' with
    | token _ htoken' => exact absurd heq.symm (htoken'.append_ne (by decide) rfl)
    | list => cases (List.cons.inj heq).1
    | object inner' ms' hms' =>
      have hinner : inner ++ '\x7d' :: r = inner' ++ '\x7d' :: r' := by simpa using heq
      obtain ⟨rfl, rfl, -⟩ := hms.unique (keyValue_unambiguous h hopens hopens') (by decide)
        keyValue_opens keyValue_opens hms' hinner
      exact ⟨rfl, rfl⟩

end

theorem levels_opens (depth : Nat) : Opens ']' (Levels depth) := by
  intro v t h
  cases depth with
  | zero => exact h.elim
  | succ depth => exact layer_opens h

theorem levels_unambiguous (depth depth' : Nat) : Unambiguous (Levels depth) (Levels depth') := by
  induction depth generalizing depth' with
  | zero => exact fun h => h.elim
  | succ depth ih =>
    cases depth' with
    | zero => exact fun _ h => h.elim
    | succ depth' => exact layer_unambiguous (ih depth') (levels_opens depth) (levels_opens depth')

theorem spelled_opens : Opens ']' Spelled := by
  rintro v t ⟨depth, h⟩
  exact levels_opens depth h

/-- A text spells one tree at most, with one end. -/
theorem spelled_unambiguous : Unambiguous Spelled Spelled := by
  rintro v v' r r' t t' ⟨depth, h⟩ ⟨depth', h'⟩ hr hr' heq
  exact levels_unambiguous depth depth' h h' hr hr' heq

theorem Spelled.unique {v : List Char} {t t' : Tree} (h : Spelled v t) (h' : Spelled v t') :
    t = t' :=
  (spelled_unambiguous h h' delimited_nil delimited_nil rfl).2

theorem Spelled.layer {v : List Char} {t : Tree} (h : Spelled v t) : Layer Spelled v t := by
  obtain ⟨depth, h⟩ := h
  cases depth with
  | zero => exact h.elim
  | succ depth =>
    cases h with
    | token _ hv => exact .token v hv
    | list inner items hitems => exact .list inner items (hitems.imp fun _ _ ht => ⟨depth, ht⟩)
    | object inner ms hms =>
      refine .object inner ms (hms.imp ?_)
      rintro _ m ⟨a, v, hcs, hkey, ha, ht⟩
      exact ⟨a, v, hcs, hkey, ha, depth, ht⟩

theorem spelled_token {cs : List Char} (h : Token cs) : Spelled cs (.token cs) :=
  ⟨1, .token cs h⟩

theorem eq_of_spelled_token {v cs : List Char} (h : Spelled v (.token cs)) : v = cs := by
  cases h.layer with
  | token => rfl

/-! ## Values of the grammar as tokens -/

theorem Piece.letters {p cs : List Char} {c : Char} (hp : Piece p c) (h : Letters cs) :
    Letters (p ++ cs) := by
  cases hp with
  | plain _ hc hquote hslash => exact .plain c cs hc hquote hslash h
  | short letter _ hletter => exact .short letter c cs hletter h
  | unit ds _ hds => exact .unit ds cs _ hds h
  | halves ds ds' high low _ hds hds' =>
    rw [List.append_assoc]
    exact .unit ds _ high hds (.unit ds' cs low hds' h)

theorem Pieces.letters {body text : List Char} (h : Pieces body text) : Letters body := by
  induction h with
  | nil => exact .nil
  | cons p ps c cs hp _ ih => exact hp.letters ih

theorem stringToken_of_quoted {cs : List Char} {text : String} (h : Quoted cs text) :
    StringToken cs := by
  obtain ⟨body, hcs, hbody⟩ := h
  exact ⟨body, hcs, hbody.letters⟩

theorem numberToken_of_integral {cs : List Char} {i : Int} (h : Integral cs i) : NumberToken cs := by
  cases h with
  | natural _ n hn =>
    have htoken := NumberToken.mk [] cs [] [] n (by decide) hn .absent .absent
    simpa using htoken
  | negative ds n hn =>
    have htoken := NumberToken.mk ['-'] ds [] [] n (by decide) hn .absent .absent
    simpa using htoken

theorem token_of_integral {cs : List Char} {i : Int} (h : Integral cs i) : Token cs :=
  .inr (.inl (numberToken_of_integral h))

theorem token_of_truth {cs : List Char} {b : Bool} (h : Truth cs b) : Token cs := by
  refine .inr (.inr ?_)
  cases h <;> decide

theorem token_null : Token null :=
  .inr (.inr (by decide))

section
variable {γ : Type} {Value : List Char → Tree → Prop} {inner : List Char}
variable {P : String × List Char → γ → Prop} {Q : List Char × Tree → γ → Prop} {zs : List γ}

theorem exists_keyValues {raw : List (String × List Char)} (h : Items Member true inner raw)
    (hraw : List.Forall₂ P raw zs)
    (hvalue : ∀ key m z, Quoted key m.1 → P m z → ∃ t, Value m.2 t ∧ Q (key, t) z) :
    ∃ ms, Items (KeyValue Value) true inner ms ∧ List.Forall₂ Q ms zs := by
  refine h.exists_forall₂ hraw ?_
  rintro _ m z ⟨key, a, rfl, hkey, ha⟩ hm
  obtain ⟨t, ht, hq⟩ := hvalue key m z hkey hm
  exact ⟨(key, t), ⟨a, m.2, rfl, stringToken_of_quoted hkey, ha, ht⟩, hq⟩

theorem exists_members {ms : List (List Char × Tree)} (h : Items (KeyValue Value) true inner ms)
    (hms : List.Forall₂ Q ms zs)
    (hvalue : ∀ m v z, Value v m.2 → Q m z → ∃ name, Quoted m.1 name ∧ P (name, v) z) :
    ∃ raw, Items Member true inner raw ∧ List.Forall₂ P raw zs := by
  refine h.exists_forall₂ hms ?_
  rintro _ m z ⟨a, v, rfl, -, ha, hv⟩ hm
  obtain ⟨name, hname, hp⟩ := hvalue m v z hv hm
  exact ⟨(name, v), ⟨m.1, a, rfl, hname, ha⟩, hp⟩

end

theorem quoted_unique {cs : List Char} {text text' : String} (h : Quoted cs text)
    (h' : Quoted cs text') : text = text' :=
  text_accepts.unique ⟨[], cs, rfl, spaces_nil, h⟩ ⟨[], cs, rfl, spaces_nil, h'⟩

end BundleInspect.Json
