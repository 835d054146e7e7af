import BundleInspect.Text.Shown

/-!
# Quoted text

How a text is shown between double quotes: the quote, the backslash and the characters that are not
shown as themselves are written as escapes.
-/

namespace BundleInspect.Text

def hexDigits (n : Nat) : String :=
  String.ofList (Nat.toDigits 16 n)

def quoteChar (c : Char) : String :=
  match c with
  | '"' => "\\\""
  | '\\' => "\\\\"
  | '\t' => "\\t"
  | '\r' => "\\r"
  | '\n' => "\\n"
  | '\x00' => "\\0"
  | c => if isShown c then c.toString else "\\u\x7b" ++ hexDigits c.toNat ++ "\x7d"

def quoteBody (text : String) : String :=
  String.join (text.toList.map quoteChar)

def quote (text : String) : String :=
  "\"" ++ quoteBody text ++ "\""

def quoteList (texts : List String) : String :=
  "[" ++ ", ".intercalate (texts.map quote) ++ "]"

end BundleInspect.Text
