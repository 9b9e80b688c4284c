/-!
# FlatQuery.Decimal.Shortest

The shortest decimal that names a binary number among its neighbours.

A number `m · 2^e` stands for every real that rounds to it.  For one digit, two digits and so on the
two decimals next to it are tried until one of them lies in that interval; of two hits the nearer is
taken, and of two equally near ones the even one.
-/

namespace FlatQuery

/-- A positive decimal number `digits · 10^exponent`. -/
structure Decimal where
  digits : Nat
  exponent : Int

namespace Decimal

/-- How many decimal digits a number has. -/
def width (n : Nat) : Nat := (Nat.toDigits 10 n).length

/-- The decimal without zeros at the end of its digits, of which `fuel` at most are taken off. -/
def dropZeros : Nat → Decimal → Decimal
  | 0, d => d
  | fuel + 1, d =>
      if d.digits ≠ 0 ∧ d.digits % 10 = 0 then dropZeros fuel ⟨d.digits / 10, d.exponent + 1⟩ else d

/-- A quotient `value / unit` between the ends of its interval, all over one `unit`.  The ends
belong to the interval when `closed`. -/
structure Interval where
  low : Nat
  value : Nat
  high : Nat
  unit : Nat
  closed : Bool

namespace Interval

/-- The reals that round to `m · 2^e`.  The neighbour below is nearer when `narrow`. -/
def ofBinary (m : Nat) (e : Int) (narrow : Bool) : Interval :=
  let scale := Nat.pow 2 (e - 2).toNat
  { low := (4 * m - if narrow then 1 else 2) * scale
    value := 4 * m * scale
    high := (4 * m + 2) * scale
    unit := Nat.pow 2 (2 - e).toNat
    closed := m % 2 = 0 }

/-- The exponent of the first digit of the value. -/
def leading (i : Interval) : Int :=
  if i.unit ≤ i.value then (width (i.value / i.unit) : Int) - 1
  else -(width ((i.unit + i.value - 1) / i.value - 1) : Int)

/-- The decimal of the interval on the grid `10^exponent` that is nearest to the value. -/
def onGrid? (i : Interval) (exponent : Int) : Option Decimal :=
  let step := Nat.pow 10 exponent.toNat * i.unit
  let shrink := Nat.pow 10 (-exponent).toNat
  let value := i.value * shrink
  let down := value / step
  let above := i.low * shrink < down * step || i.closed && i.low * shrink = down * step
  let below := (down + 1) * step < i.high * shrink
    || i.closed && (down + 1) * step = i.high * shrink
  let rest := value - down * step
  let gap := (down + 1) * step - value
  if above && (!below || rest < gap || rest = gap && down % 2 = 0) then some ⟨down, exponent⟩
  else if below then some ⟨down + 1, exponent⟩
  else none

/-- The first grid, from `digits` digits on, that meets the interval; `fuel` grids are tried. -/
def search (i : Interval) : Nat → Nat → Decimal
  | 0, digits => ⟨i.value * Nat.pow 10 digits / i.unit, -digits⟩
  | fuel + 1, digits =>
      match i.onGrid? (i.leading + 1 - digits) with
      | some d => d
      | none => search i fuel (digits + 1)

end Interval

/-- The shortest decimal for `m · 2^e`, where `m` is positive.  Seventeen digits always suffice for
a number of 53 bits. -/
def shortest (m : Nat) (e : Int) (narrow : Bool) : Decimal :=
  dropZeros 20 ((Interval.ofBinary m e narrow).search 17 1)

/-- The shortest decimal for the magnitude of a finite float other than zero. -/
def ofFloat (x : Float) : Decimal :=
  let bits : Nat := x.toBits.toNat % Nat.pow 2 63
  let fraction : Nat := bits % Nat.pow 2 52
  let power : Nat := bits / Nat.pow 2 52
  if power = 0 then shortest fraction (-1074) false
  else shortest (Nat.pow 2 52 + fraction) ((power : Int) - 1075) (fraction = 0 ∧ 1 < power)

end Decimal

end FlatQuery
