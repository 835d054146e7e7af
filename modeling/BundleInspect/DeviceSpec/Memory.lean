import BundleInspect.Json.Value
import BundleInspect.Text.Blank

/-!
# Sizes that may be written as texts

A 64-bit integer of a document is a number or a string. The string holds decimal digits with an
optional sign and may have blanks around it.
-/

namespace BundleInspect.DeviceSpec

open Json (Scanned IntegerFault Cause)

/-- The first character that is no digit, or leaves 64 bits, ends it. -/
def digits64 (negative : Bool) : Int → List Char → Except IntegerFault Int
  | value, [] => .ok value
  | value, c :: cs =>
    if c.isDigit then
      if negative then
        let next := 10 * value - Json.digitValue c
        if -0x8000000000000000 ≤ next then digits64 negative next cs else .error .tooSmall
      else
        let next := 10 * value + Json.digitValue c
        if next < 0x8000000000000000 then digits64 negative next cs else .error .tooLarge
    else .error .badDigit

def signed64 (negative : Bool) (cs : List Char) : Except IntegerFault Int :=
  match cs with
  | [] => .error .badDigit
  | cs => digits64 negative 0 cs

def integer64 (cs : List Char) : Except IntegerFault Int :=
  match cs with
  | [] => .error .empty
  | '+' :: cs => signed64 false cs
  | '-' :: cs => signed64 true cs
  | cs => signed64 false cs

def bytesOf : Scanned → Except Cause Int64
  | .integer i =>
    if -0x8000000000000000 ≤ i ∧ i < 0x8000000000000000 then .ok (Int64.ofInt i)
    else .error (.noVariant "Int64")
  | .string text =>
    match integer64 (Text.trim text.toList) with
    | .ok i => .ok (Int64.ofInt i)
    | .error fault => .error (.badInteger fault)
  | .other => .error (.noVariant "Int64")

end BundleInspect.DeviceSpec
