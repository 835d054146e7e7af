import BundleInspect.Text.Digit

/-!
# The JSON grammar

Which characters make up a string, an integer, a list and an object, and what they stand for.
Nothing here says how they are read.
-/

namespace BundleInspect.Json

def Spaces (cs : List Char) : Prop :=
  ∀ c ∈ cs, c ∈ [' ', '\n', '\t', '\r']

/-! ## Strings -/

def shortEscapes : List (Char × Char) :=
  [('"', '"'), ('\\', '\\'), ('/', '/'), ('b', '\x08'), ('f', '\x0c'), ('n', '\n'), ('r', '\r'),
    ('t', '\t')]

def HexUnit (cs : List Char) (n : Nat) : Prop :=
  cs.length = 4 ∧ Text.valueIn? 16 cs = some n

/-- Characters outside the basic plane may be written as two halves. -/
inductive Piece : List Char → Char → Prop where
  | plain (c : Char) : 0x20 ≤ c.toNat → c ≠ '"' → c ≠ '\\' → Piece [c] c
  | short (letter c : Char) : (letter, c) ∈ shortEscapes → Piece ['\\', letter] c
  | unit (cs : List Char) (c : Char) : HexUnit cs c.toNat → Piece ('\\' :: 'u' :: cs) c
  | halves (cs cs' : List Char) (high low : Nat) (c : Char) :
    HexUnit cs high → HexUnit cs' low → 0xd800 ≤ high → high ≤ 0xdbff → 0xdc00 ≤ low →
      low ≤ 0xdfff → c.toNat = 0x10000 + (high - 0xd800) * 0x400 + (low - 0xdc00) →
      Piece ('\\' :: 'u' :: cs ++ '\\' :: 'u' :: cs') c

inductive Pieces : List Char → List Char → Prop where
  | nil : Pieces [] []
  | cons (p ps : List Char) (c : Char) (cs : List Char) :
    Piece p c → Pieces ps cs → Pieces (p ++ ps) (c :: cs)

def Quoted (cs : List Char) (text : String) : Prop :=
  ∃ body, cs = '"' :: body ++ ['"'] ∧ Pieces body text.toList

/-! ## Numbers and truth values -/

/-- Decimal digits without leading zeros. -/
def Decimal (cs : List Char) (n : Nat) : Prop :=
  Text.valueIn? 10 cs = some n ∧ (cs.head? = some '0' → cs = ['0'])

/-- An integer without fraction and exponent. Minus zero is none. -/
inductive Integral : List Char → Int → Prop where
  | natural (cs : List Char) (n : Nat) : Decimal cs n → Integral cs n
  | negative (cs : List Char) (n : Nat) : Decimal cs n → n ≠ 0 → Integral ('-' :: cs) (-n)

inductive Truth : List Char → Bool → Prop where
  | yes : Truth ['t', 'r', 'u', 'e'] true
  | no : Truth ['f', 'a', 'l', 's', 'e'] false

def null : List Char :=
  ['n', 'u', 'l', 'l']

inductive Nullable {α : Type} (Value : List Char → α → Prop) : List Char → Option α → Prop where
  | null : Nullable Value null none
  | value (cs : List Char) (x : α) : Value cs x → Nullable Value cs (some x)

/-! ## Lists and objects -/

/-- Spaces before the first item, a comma among spaces before the others. -/
inductive Gap : Bool → List Char → Prop where
  | first (w : List Char) : Spaces w → Gap true w
  | comma (w w' : List Char) : Spaces w → Spaces w' → Gap false (w ++ ',' :: w')

/-- The flag says whether the first item is still to come. -/
inductive Items {α : Type} (Item : List Char → α → Prop) : Bool → List Char → List α → Prop where
  | done (first : Bool) (w : List Char) : Spaces w → Items Item first w []
  | next (first : Bool) (gap v more : List Char) (x : α) (xs : List α) :
    Gap first gap → Item v x → Items Item false more xs →
      Items Item first (gap ++ v ++ more) (x :: xs)

def Listed {α : Type} (Item : List Char → α → Prop) (cs : List Char) (xs : List α) : Prop :=
  ∃ inner, cs = '[' :: inner ++ [']'] ∧ Items Item true inner xs

def Assigned (cs v : List Char) : Prop :=
  ∃ w w', cs = w ++ ':' :: w' ++ v ∧ Spaces w ∧ Spaces w'

def Member (cs : List Char) (m : String × List Char) : Prop :=
  ∃ key a, cs = key ++ a ∧ Quoted key m.1 ∧ Assigned a m.2

def Membered (cs : List Char) (ms : List (String × List Char)) : Prop :=
  ∃ inner, cs = '\x7b' :: inner ++ ['\x7d'] ∧ Items Member true inner ms

end BundleInspect.Json
