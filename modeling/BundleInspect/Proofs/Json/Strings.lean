import BundleInspect.Json.Reader
import BundleInspect.Proofs.Json.Grammar

/-!
# Strings are read as the grammar says

`string_eq_ok_iff`: what `string` accepts after an opening quote is the rest of a quoted string, and
the text it gives is the one that the pieces stand for.
-/

namespace BundleInspect.Json

/-! ## Hexadecimal digits -/

theorem hexUnit?_eq_valueIn? (a b c d : Char) :
    hexUnit? a b c d = Text.valueIn? 16 [a, b, c, d] := by
  simp only [hexUnit?, Text.valueIn?, Text.digitsIn?, Text.digitIn?_sixteen]
  cases Text.hexValue? a <;> cases Text.hexValue? b <;> cases Text.hexValue? c <;>
    cases Text.hexValue? d <;> simp
  omega

theorem hexUnit_eq_ok_iff {cs rest : List Char} {n : Nat} :
    hexUnit cs = .ok (n, rest) ↔ ∃ ds, cs = ds ++ rest ∧ HexUnit ds n := by
  constructor
  · intro h
    unfold hexUnit at h
    dsimp only at h
    split at h
    case h_1 a b c d cs =>
      rw [hexUnit?_eq_valueIn?] at h
      split at h
      case h_1 m hm =>
        cases h
        exact ⟨[a, b, c, d], rfl, rfl, hm⟩
      case h_2 => split at h <;> cases h
    case h_2 => split at h <;> cases h
  · rintro ⟨ds, rfl, hlen, hvalue⟩
    match ds, hlen with
    | [a, b, c, d], _ =>
      rw [← hexUnit?_eq_valueIn?] at hvalue
      simp [hexUnit, hvalue]

theorem hexUnit_lt {cs : List Char} {n : Nat} (h : HexUnit cs n) : n < 0x10000 := by
  obtain ⟨hlen, hvalue⟩ := h
  match cs, hlen with
  | [a, b, c, d], _ =>
    rw [← hexUnit?_eq_valueIn?] at hvalue
    simp only [hexUnit?, Option.bind_eq_bind, Option.bind_eq_some_iff, Option.pure_def,
      Option.some.injEq] at hvalue
    obtain ⟨a', ha, b', hb, c', hc, d', hd, rfl⟩ := hvalue
    have := Text.hexValue?_lt ha
    have := Text.hexValue?_lt hb
    have := Text.hexValue?_lt hc
    have := Text.hexValue?_lt hd
    omega

/-! ## Escapes -/

theorem shortEscape?_eq_some_iff {letter c : Char} :
    shortEscape? letter = some c ↔ (letter, c) ∈ shortEscapes := by
  constructor
  · intro h
    unfold shortEscape? at h
    split at h <;> cases h <;> decide
  · intro h
    simp only [shortEscapes, List.mem_cons, Prod.mk.injEq, List.not_mem_nil, or_false] at h
    rcases h with h | h | h | h | h | h | h | h <;> obtain ⟨rfl, rfl⟩ := h <;> rfl

theorem secondHalf_eq_ok {high : Nat} {cs rest : List Char} {c : Char}
    (h : secondHalf high cs = .ok (c, rest)) :
    ∃ ds low, cs = '\\' :: 'u' :: ds ++ rest ∧ HexUnit ds low ∧ isLowSurrogate low = true ∧
      c = Char.ofNat (0x10000 + (high - 0xd800) * 0x400 + (low - 0xdc00)) := by
  unfold secondHalf at h
  split at h
  case h_1 => cases h
  case h_3 => cases h
  case h_2 cs =>
    split at h
    case h_1 => cases h
    case h_3 => cases h
    case h_2 cs =>
      rw [bind_eq_ok] at h
      obtain ⟨⟨low, rest'⟩, hunit, h⟩ := h
      dsimp only at h
      obtain ⟨ds, rfl, hds⟩ := hexUnit_eq_ok_iff.mp hunit
      split at h
      case isTrue hlow =>
        simp only [Except.ok.injEq, Prod.mk.injEq] at h
        obtain ⟨rfl, rfl⟩ := h
        exact ⟨ds, low, rfl, hds, hlow, rfl⟩
      case isFalse => cases h

theorem unicodeEscape_eq_ok {cs rest : List Char} {c : Char}
    (h : unicodeEscape cs = .ok (c, rest)) :
    ∃ p, cs = p ++ rest ∧ Piece ('\\' :: 'u' :: p) c := by
  rw [unicodeEscape, bind_eq_ok] at h
  obtain ⟨⟨n, cs'⟩, hunit, h⟩ := h
  dsimp only at h
  obtain ⟨ds, rfl, hds⟩ := hexUnit_eq_ok_iff.mp hunit
  have hlt := hexUnit_lt hds
  split at h
  case isTrue => cases h
  case isFalse hlow =>
    split at h
    case isTrue hhigh =>
      obtain ⟨ds', low, rfl, hds', hlow', hc⟩ := secondHalf_eq_ok h
      simp only [isHighSurrogate, isLowSurrogate, Bool.and_eq_true, decide_eq_true_eq]
        at hhigh hlow'
      refine ⟨ds ++ '\\' :: 'u' :: ds', by simp, ?_⟩
      refine .halves ds ds' n low _ hds hds' hhigh.1 hhigh.2 hlow'.1 hlow'.2 ?_
      rw [hc]
      exact Text.toNat_ofNat_of_valid (by omega)
    case isFalse hhigh =>
      simp only [Except.ok.injEq, Prod.mk.injEq] at h
      obtain ⟨rfl, rfl⟩ := h
      simp only [isHighSurrogate, isLowSurrogate, Bool.and_eq_true, decide_eq_true_eq, not_and]
        at hhigh hlow
      refine ⟨ds, rfl, .unit ds _ ?_⟩
      rw [Text.toNat_ofNat_of_valid (by omega)]
      exact hds

theorem escape_eq_ok {cs rest : List Char} {c : Char} (h : escape cs = .ok (c, rest)) :
    ∃ p, cs = p ++ rest ∧ Piece ('\\' :: p) c := by
  unfold escape at h
  split at h
  case h_1 => cases h
  case h_2 cs =>
    obtain ⟨p, rfl, hp⟩ := unicodeEscape_eq_ok h
    exact ⟨'u' :: p, rfl, hp⟩
  case h_3 letter cs _ =>
    split at h
    case h_1 x hx =>
      cases h
      exact ⟨[letter], rfl, .short letter c (shortEscape?_eq_some_iff.mp hx)⟩
    case h_2 => cases h

/-! ## Pieces -/

theorem stringPiece_eq_none {cs rest : List Char} (h : stringPiece cs = .ok (none, rest)) :
    cs = '"' :: rest := by
  unfold stringPiece at h
  split at h
  case h_1 => cases h
  case h_2 => cases h; rfl
  case h_3 =>
    rw [bind_eq_ok] at h
    obtain ⟨x, -, h⟩ := h
    cases h
  case h_4 => split at h <;> cases h

theorem stringPiece_eq_some {cs rest : List Char} {c : Char}
    (h : stringPiece cs = .ok (some c, rest)) : ∃ p, cs = p ++ rest ∧ Piece p c := by
  unfold stringPiece at h
  split at h
  case h_1 => cases h
  case h_2 => cases h
  case h_3 cs =>
    rw [bind_eq_ok] at h
    obtain ⟨⟨x, rest'⟩, hescape, h⟩ := h
    cases h
    obtain ⟨p, rfl, hp⟩ := escape_eq_ok hescape
    exact ⟨'\\' :: p, rfl, hp⟩
  case h_4 x cs hquote hslash =>
    split at h
    case isTrue => cases h
    case isFalse hx =>
      cases h
      exact ⟨[c], rfl, .plain c (by omega) hquote hslash⟩

theorem surrogate_of_valid (c : Char) :
    isLowSurrogate c.toNat = false ∧ isHighSurrogate c.toNat = false := by
  have := c.valid
  simp only [isLowSurrogate, isHighSurrogate, Bool.and_eq_false_iff, decide_eq_false_iff_not,
    Char.toNat]
  simp only [UInt32.isValidChar, Nat.isValidChar] at this
  omega

theorem escape_of_unit {ds rest : List Char} {c : Char} (h : HexUnit ds c.toNat) :
    escape ('u' :: ds ++ rest) = .ok (c, rest) := by
  have hunit : hexUnit (ds ++ rest) = .ok (c.toNat, rest) := hexUnit_eq_ok_iff.mpr ⟨ds, rfl, h⟩
  simp [escape, unicodeEscape, hunit, surrogate_of_valid c]

theorem escape_of_halves {ds ds' rest : List Char} {high low : Nat} {c : Char}
    (hds : HexUnit ds high) (hds' : HexUnit ds' low) (h1 : 0xd800 ≤ high) (h2 : high ≤ 0xdbff)
    (h3 : 0xdc00 ≤ low) (h4 : low ≤ 0xdfff)
    (hc : c.toNat = 0x10000 + (high - 0xd800) * 0x400 + (low - 0xdc00)) :
    escape ('u' :: ds ++ '\\' :: 'u' :: ds' ++ rest) = .ok (c, rest) := by
  have hunit : hexUnit (ds ++ '\\' :: 'u' :: (ds' ++ rest)) =
      .ok (high, '\\' :: 'u' :: (ds' ++ rest)) := hexUnit_eq_ok_iff.mpr ⟨ds, rfl, hds⟩
  have hunit' : hexUnit (ds' ++ rest) = .ok (low, rest) := hexUnit_eq_ok_iff.mpr ⟨ds', rfl, hds'⟩
  have hhigh : isHighSurrogate high = true := by simp [isHighSurrogate, h1, h2]
  have hnot : isLowSurrogate high = false := by simp [isLowSurrogate]; omega
  have hlow : isLowSurrogate low = true := by simp [isLowSurrogate, h3, h4]
  simp [escape, unicodeEscape, hunit, hnot, hhigh, secondHalf, hunit', hlow, ← hc]

theorem escape_of_short {letter c : Char} (rest : List Char) (h : (letter, c) ∈ shortEscapes) :
    escape (letter :: rest) = .ok (c, rest) := by
  rw [← shortEscape?_eq_some_iff] at h
  unfold escape
  split
  case h_1 heq => cases heq
  case h_2 heq =>
    cases heq
    cases h
  case h_3 heq =>
    cases heq
    rw [h]

theorem stringPiece_of_escape {p rest : List Char} {c : Char} (h : escape p = .ok (c, rest)) :
    stringPiece ('\\' :: p) = .ok (some c, rest) := by
  rw [stringPiece, h]
  rfl

theorem stringPiece_of_piece {p rest : List Char} {c : Char} (h : Piece p c) :
    stringPiece (p ++ rest) = .ok (some c, rest) := by
  cases h with
  | plain _ hc hquote hslash =>
    have : ¬ c.toNat < 0x20 := by omega
    simp [stringPiece, this]
  | short letter _ hletter => exact stringPiece_of_escape (escape_of_short rest hletter)
  | unit ds _ hds => exact stringPiece_of_escape (escape_of_unit hds)
  | halves ds ds' high low _ hds hds' h1 h2 h3 h4 hc =>
    exact stringPiece_of_escape (escape_of_halves hds hds' h1 h2 h3 h4 hc)

theorem piece_ne_nil {p : List Char} {c : Char} (h : Piece p c) : p ≠ [] := by
  cases h <;> simp

/-! ## Strings -/

theorem stringPieces_eq_ok {fuel : Nat} {cs rest text : List Char}
    (h : stringPieces fuel cs = .ok (text, rest)) :
    ∃ body, cs = body ++ '"' :: rest ∧ Pieces body text := by
  induction fuel generalizing cs text with
  | zero => cases h
  | succ fuel ih =>
    rw [stringPieces, bind_eq_ok] at h
    obtain ⟨⟨piece, cs'⟩, hpiece, h⟩ := h
    cases piece with
    | none =>
      cases h
      exact ⟨[], stringPiece_eq_none hpiece, .nil⟩
    | some c =>
      dsimp only at h
      rw [bind_eq_ok] at h
      obtain ⟨⟨more, rest'⟩, hmore, h⟩ := h
      cases h
      obtain ⟨p, rfl, hp⟩ := stringPiece_eq_some hpiece
      obtain ⟨body, rfl, hbody⟩ := ih hmore
      exact ⟨p ++ body, by simp, .cons p body c more hp hbody⟩

theorem stringPieces_of_pieces {fuel : Nat} {body rest text : List Char} (h : Pieces body text)
    (hfuel : body.length < fuel) :
    stringPieces fuel (body ++ '"' :: rest) = .ok (text, rest) := by
  induction h generalizing fuel with
  | nil =>
    obtain ⟨fuel, rfl⟩ := Nat.exists_eq_add_of_lt hfuel
    rfl
  | cons p ps c cs hp _ ih =>
    have hpos := List.length_pos_iff.mpr (piece_ne_nil hp)
    rw [List.length_append] at hfuel
    obtain ⟨fuel, rfl⟩ : ∃ n, fuel = n + 1 := ⟨fuel - 1, by omega⟩
    rw [stringPieces, List.append_assoc, stringPiece_of_piece hp, ok_bind]
    dsimp only
    rw [ih (by omega)]
    rfl

theorem string_eq_ok_iff {cs rest : List Char} {text : String} :
    string cs = .ok (text, rest) ↔ ∃ body, cs = body ++ '"' :: rest ∧ Pieces body text.toList := by
  constructor
  · intro h
    rw [string, bind_eq_ok] at h
    obtain ⟨⟨chars, rest'⟩, hpieces, h⟩ := h
    cases h
    rw [String.toList_ofList]
    exact stringPieces_eq_ok hpieces
  · rintro ⟨body, rfl, hbody⟩
    have hfuel : body.length < (body ++ '"' :: rest).length + 1 := by
      rw [List.length_append]
      omega
    rw [string, stringPieces_of_pieces hbody hfuel]
    simp

end BundleInspect.Json
