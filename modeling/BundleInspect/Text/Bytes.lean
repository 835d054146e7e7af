import BundleInspect.Text.Quoted

/-!
# Bytes that are mostly text

Words of a command line and paths are sequences of bytes. Most of them are UTF-8, none has to be:
a word is read as text where it is one, and shown with a replacement character in place of each
part that is not.
-/

namespace BundleInspect

abbrev Bytes := List UInt8

abbrev Path := Bytes

abbrev Word := Bytes

namespace Bytes

def ofText (text : String) : Bytes :=
  text.toUTF8.data.toList

def text? (bytes : Bytes) : Option String :=
  String.fromUTF8? ⟨bytes.toArray⟩

/-! ## Reading one character after the other -/

inductive Head where
  /-- A character and the number of its bytes. -/
  | char (c : Char) (size : Nat)
  /-- The bytes begin no character; so many of them belong together. -/
  | broken (size : Nat)

/-- How many bytes follow, and the range of the first. -/
def follow? (lead : UInt8) : Option (Nat × UInt8 × UInt8) :=
  if 0xc2 ≤ lead && lead ≤ 0xdf then some (1, 0x80, 0xbf)
  else if lead == 0xe0 then some (2, 0xa0, 0xbf)
  else if lead == 0xed then some (2, 0x80, 0x9f)
  else if 0xe1 ≤ lead && lead ≤ 0xef then some (2, 0x80, 0xbf)
  else if lead == 0xf0 then some (3, 0x90, 0xbf)
  else if 0xf1 ≤ lead && lead ≤ 0xf3 then some (3, 0x80, 0xbf)
  else if lead == 0xf4 then some (3, 0x80, 0x8f)
  else none

def append (code : Nat) (byte : UInt8) : Nat :=
  code * 64 + byte.toNat % 64

def tail (code size : Nat) : Nat → UInt8 → UInt8 → Bytes → Head
  | 0, _, _, _ => .char (Char.ofNat code) size
  | _ + 1, _, _, [] => .broken size
  | n + 1, low, high, b :: rest =>
    if low ≤ b && b ≤ high then tail (append code b) (size + 1) n 0x80 0xbf rest
    else .broken size

/-- Bytes that begin a character without ending it belong together. -/
def head (lead : UInt8) (rest : Bytes) : Head :=
  if lead < 0x80 then .char (Char.ofNat lead.toNat) 1
  else match follow? lead with
    | none => .broken 1
    | some (n, low, high) =>
      tail (lead.toNat % (if n = 1 then 32 else if n = 2 then 16 else 8)) 1 n low high rest

def Head.size : Head → Nat
  | .char _ n => n
  | .broken n => n

def heads : Bytes → List (Head × Bytes)
  | [] => []
  | b :: rest =>
    let h := head b rest
    (h, b :: rest.take (h.size - 1)) :: heads (rest.drop (h.size - 1))
  termination_by bytes => bytes.length
  decreasing_by simp only [List.length_drop, List.length_cons]; omega

/-! ## Showing bytes -/

/-- Each run that belongs to no character becomes one replacement character. -/
def display (bytes : Bytes) : String :=
  String.ofList (bytes.heads.map fun
    | (.char c _, _) => c
    | (.broken _, _) => '\ufffd')

def hexByte (byte : UInt8) : String :=
  let digit (n : Nat) : Char := (Nat.digitChar n).toUpper
  String.ofList [digit (byte.toNat / 16), digit (byte.toNat % 16)]

def quote (bytes : Bytes) : String :=
  "\"" ++ String.join (bytes.heads.map fun
    | (.char c _, _) => Text.quoteChar c
    | (.broken _, run) => String.join (run.map fun b => "\\x" ++ hexByte b)) ++ "\""

/-! ## Text and bytes -/

@[simp] theorem text?_ofText (text : String) : (ofText text).text? = some text := by
  simp only [text?, ofText, Array.toArray_toList, String.fromUTF8?]
  exact dif_pos text.isValidUTF8

end Bytes
end BundleInspect
