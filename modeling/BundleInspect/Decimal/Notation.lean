import BundleInspect.Decimal.Shortest

/-!
# Notation of decimal numbers

How the digits of a number are written: with all places where the leading digit lies in a given
range of places, with an exponent elsewhere.
-/

namespace BundleInspect.Decimal

structure Notation where
  /-- The least exponent of the leading digit that is written with all places. -/
  least : Int
  /-- The greatest such exponent. -/
  greatest : Int

def zeros (n : Nat) : String :=
  String.ofList (List.replicate n '0')

def significant (n : Nat) : List Char :=
  ((Nat.toDigits 10 n).reverse.dropWhile (· == '0')).reverse

def allPlaces (digits : List Char) (leading : Int) : String :=
  if leading < 0 then "0." ++ zeros (-leading - 1).toNat ++ String.ofList digits
  else
    let whole := leading.toNat + 1
    if digits.length ≤ whole then
      String.ofList digits ++ zeros (whole - digits.length) ++ ".0"
    else String.ofList (digits.take whole) ++ "." ++ String.ofList (digits.drop whole)

def exponentText (e : Int) : String :=
  (if e < 0 then "-" else "+") ++ toString e.natAbs

def scientific (digits : List Char) (leading : Int) : String :=
  let fraction := match digits.drop 1 with
    | [] => ""
    | more => "." ++ String.ofList more
  String.ofList (digits.take 1) ++ fraction ++ "e" ++ exponentText leading

def Notation.write (n : Notation) (d : Digits) : String :=
  let leading := d.exponent + digitCount d.coefficient - 1
  let digits := significant d.coefficient
  if n.least ≤ leading && leading ≤ n.greatest then allPlaces digits leading
  else scientific digits leading

def Notation.double (n : Notation) (x : Float) : String :=
  let sign := if x.toBits.toNat < 0x8000000000000000 then "" else "-"
  let magnitude := Binary.ofBits x.toBits
  sign ++ (if magnitude.mantissa = 0 then "0.0" else n.write (shortest magnitude))

end BundleInspect.Decimal
