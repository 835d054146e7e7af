/-!
# Shortest decimal digits

The fewest decimal digits that read back as a given double. A double stands for the interval of
reals that round to it; of the decimal grids, from coarse to fine, the first with a point in that
interval is taken, and on it the point nearest to the double.
-/

namespace BundleInspect.Decimal

/-- A magnitude `mantissa * 2 ^ exponent`, as a double holds it. -/
structure Binary where
  mantissa : Nat
  exponent : Int

def Binary.ofBits (bits : UInt64) : Binary :=
  let fraction : Nat := bits.toNat % 0x10000000000000
  let scale : Nat := bits.toNat / 0x10000000000000 % 0x800
  if scale = 0 then ⟨fraction, -1074⟩ else ⟨0x10000000000000 + fraction, (scale : Int) - 1075⟩

/-- The reals that round to a double, over one denominator. -/
structure Interval where
  low : Nat
  value : Nat
  high : Nat
  denominator : Nat
  closed : Bool

/-- Below a power of two the neighbour is half as far. -/
def Binary.interval (b : Binary) : Interval :=
  let below := if b.mantissa = 0x10000000000000 ∧ b.exponent ≠ -1074 then 1 else 2
  let up := Nat.pow 2 (b.exponent - 2).toNat
  { low := (4 * b.mantissa - below) * up
    value := 4 * b.mantissa * up
    high := (4 * b.mantissa + 2) * up
    denominator := Nat.pow 2 (2 - b.exponent).toNat
    closed := b.mantissa % 2 == 0 }

def Interval.inUnits (i : Interval) (grid : Int) : Interval :=
  let up := Nat.pow 10 (-grid).toNat
  { i with
    low := i.low * up
    value := i.value * up
    high := i.high * up
    denominator := i.denominator * Nat.pow 10 grid.toNat }

def Interval.holds (i : Interval) (n : Nat) : Bool :=
  let n := n * i.denominator
  if i.closed then i.low ≤ n && n ≤ i.high else i.low < n && n < i.high

def Interval.nearest? (i : Interval) : Option Nat :=
  let floor := i.value / i.denominator
  let twice := 2 * (i.value % i.denominator)
  let floorFirst := twice < i.denominator || (twice == i.denominator && floor % 2 == 0)
  let order := if floorFirst then [floor, floor + 1] else [floor + 1, floor]
  order.find? i.holds

def digitCount (n : Nat) : Nat :=
  (Nat.toDigits 10 n).length

def Interval.leading (i : Interval) : Int :=
  let e : Int := (digitCount i.value : Int) - digitCount i.denominator
  if i.denominator * Nat.pow 10 e.toNat ≤ i.value * Nat.pow 10 (-e).toNat then e else e - 1

structure Digits where
  coefficient : Nat
  exponent : Int

/-- Tries the grids with `17 - more`, …, 17 digits. -/
def Interval.search (i : Interval) (leading : Int) : Nat → Digits
  | 0 => ⟨i.value / i.denominator, 0⟩
  | more + 1 =>
    let grid := leading - (16 - more)
    match (i.inUnits grid).nearest? with
    | some n => ⟨n, grid⟩
    | none => i.search leading more

def shortest (b : Binary) : Digits :=
  b.interval.search b.interval.leading 17

end BundleInspect.Decimal
