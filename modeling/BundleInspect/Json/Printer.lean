/-!
# Compact JSON text

A document without spaces. In strings the quote, the backslash and control characters are escaped,
everything else stands for itself.
-/

namespace BundleInspect.Json

def unitDigit (n : Nat) : Char :=
  Nat.digitChar (n % 16)

def printChar (c : Char) : List Char :=
  match c with
  | '"' => ['\\', '"']
  | '\\' => ['\\', '\\']
  | '\x08' => ['\\', 'b']
  | '\x0c' => ['\\', 'f']
  | '\n' => ['\\', 'n']
  | '\r' => ['\\', 'r']
  | '\t' => ['\\', 't']
  | c =>
    if c.toNat < 0x20 then ['\\', 'u', '0', '0', unitDigit (c.toNat / 16), unitDigit c.toNat]
    else [c]

def printString (text : String) : List Char :=
  '"' :: text.toList.flatMap printChar ++ ['"']

def printInteger (i : Int) : List Char :=
  (toString i).toList

def printBoolean (b : Bool) : List Char :=
  (if b then "true" else "false").toList

def printSequence : List (List Char) → List Char
  | [] => []
  | [piece] => piece
  | piece :: more => piece ++ ',' :: printSequence more

def printStrings (texts : List String) : List Char :=
  '[' :: printSequence (texts.map printString) ++ [']']

def printMember (key : String) (value : List Char) : List Char :=
  printString key ++ ':' :: value

def printObject (pieces : List (List Char)) : List Char :=
  '\x7b' :: printSequence pieces ++ ['\x7d']

end BundleInspect.Json
