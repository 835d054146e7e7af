import BundleInspect.Json.Printer
import BundleInspect.Proofs.Json.Numbers
import BundleInspect.Proofs.Json.Reading
import BundleInspect.Proofs.Text.Numerals
import Mathlib.Data.List.Forall2

/-!
# What is printed is of the grammar

Printed texts, integers, lists and objects are written the way the grammar says.
-/

namespace BundleInspect.Json

/-! ## Texts -/

theorem hexUnit_of_control {n : Nat} (h : n < 0x20) :
    HexUnit ['0', '0', unitDigit (n / 16), unitDigit n] n := by
  have hall : ∀ m < 0x20,
      Text.valueIn? 16 ['0', '0', unitDigit (m / 16), unitDigit m] = some m := by
    decide
  exact ⟨rfl, hall n h⟩

theorem piece_printChar (c : Char) : Piece (printChar c) c := by
  unfold printChar
  split
  case h_1 => exact .short '"' '"' (by decide)
  case h_2 => exact .short '\\' '\\' (by decide)
  case h_3 => exact .short 'b' '\x08' (by decide)
  case h_4 => exact .short 'f' '\x0c' (by decide)
  case h_5 => exact .short 'n' '\n' (by decide)
  case h_6 => exact .short 'r' '\r' (by decide)
  case h_7 => exact .short 't' '\t' (by decide)
  case h_8 hquote hbackslash _ _ _ _ _ =>
    split
    case isTrue hcontrol => exact .unit _ _ (hexUnit_of_control hcontrol)
    case isFalse hcontrol => exact .plain _ (Nat.le_of_not_lt hcontrol) hquote hbackslash

theorem pieces_printChar (cs : List Char) : Pieces (cs.flatMap printChar) cs := by
  induction cs with
  | nil => exact .nil
  | cons c cs ih => exact .cons _ _ c cs (piece_printChar c) ih

theorem quoted_printString (text : String) : Quoted (printString text) text :=
  ⟨text.toList.flatMap printChar, rfl, pieces_printChar text.toList⟩

/-! ## Integers and truth values -/

theorem digitsIn?_of_isDigit {cs : List Char} (h : ∀ c ∈ cs, c.isDigit = true) (value : Nat) :
    Text.digitsIn? 10 value cs = some (Nat.ofDigitChars 10 cs value) := by
  induction cs generalizing value with
  | nil => simp [Text.digitsIn?]
  | cons c cs ih =>
    obtain ⟨hc, hcs⟩ := List.forall_mem_cons.mp h
    simp [Text.digitsIn?, digitIn?_eq_digitValue, hc, ih hcs, Nat.ofDigitChars_cons, digitValue]

theorem decimal_toDigits (n : Nat) : Decimal (Nat.toDigits 10 n) n := by
  constructor
  · rw [Text.valueIn?, if_neg Nat.toDigits_ne_nil, digitsIn?_of_isDigit]
    · rw [Nat.ofDigitChars_ten_toDigits]
    · intro c hc
      exact Nat.isDigit_of_mem_toDigits (by decide) (by decide) hc
  · intro h
    rw [Text.toDigits_of_zero_head h]
    rfl

theorem integral_printInteger (i : Int) : Integral (printInteger i) i := by
  unfold printInteger
  rw [Int.toString_eq_repr, Int.repr_eq_if]
  split
  case isTrue h =>
    have hdigits := Integral.natural _ i.toNat (decimal_toDigits i.toNat)
    rw [Int.toNat_of_nonneg h] at hdigits
    rw [Nat.toList_repr]
    exact hdigits
  case isFalse h =>
    have hdigits := Integral.negative _ (-i).toNat (decimal_toDigits (-i).toNat) (by omega)
    have hi : -((-i).toNat : Int) = i := by omega
    rw [hi] at hdigits
    rw [String.toList_append, Nat.toList_repr]
    exact hdigits

theorem truth_printBoolean (b : Bool) : Truth (printBoolean b) b := by
  cases b
  · exact .no
  · exact .yes

/-! ## Lists and objects -/

theorem printSequence_cons (piece : List Char) (more : List (List Char)) :
    printSequence (piece :: more) = piece ++ more.flatMap fun p => ',' :: p := by
  induction more generalizing piece with
  | nil => simp [printSequence]
  | cons p more ih => simp [printSequence, ih]

section
variable {α : Type} {Item : List Char → α → Prop}

theorem items_after_comma {pieces : List (List Char)} {xs : List α}
    (h : List.Forall₂ Item pieces xs) :
    Items Item false (pieces.flatMap fun p => ',' :: p) xs := by
  induction h with
  | nil => exact .done false [] spaces_nil
  | cons hp _ ih => exact .next false [','] _ _ _ _ (.comma [] [] spaces_nil spaces_nil) hp ih

theorem items_printSequence {pieces : List (List Char)} {xs : List α}
    (h : List.Forall₂ Item pieces xs) : Items Item true (printSequence pieces) xs := by
  cases h with
  | nil => exact .done true [] spaces_nil
  | cons hp hmore =>
    rw [printSequence_cons]
    exact .next true [] _ _ _ _ (.first [] spaces_nil) hp (items_after_comma hmore)

end

theorem listed_printStrings (texts : List String) : Listed Quoted (printStrings texts) texts := by
  refine ⟨_, rfl, items_printSequence ?_⟩
  rw [List.forall₂_map_left_iff, List.forall₂_same]
  intro text _
  exact quoted_printString text

theorem member_printMember (key : String) (value : List Char) :
    Member (printMember key value) (key, value) :=
  ⟨printString key, ':' :: value, rfl, quoted_printString key, [], [], rfl, spaces_nil, spaces_nil⟩

theorem membered_printObject (ms : List (String × List Char)) :
    Membered (printObject (ms.map fun m => printMember m.1 m.2)) ms := by
  refine ⟨_, rfl, items_printSequence ?_⟩
  rw [List.forall₂_map_left_iff, List.forall₂_same]
  intro m _
  exact member_printMember m.1 m.2

end BundleInspect.Json
