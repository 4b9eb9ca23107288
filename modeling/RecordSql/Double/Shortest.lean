import RecordSql.Double

/-! The decimal with the fewest digits that rounds to a given number, and of those the nearest.

The decimals that round to `m · 2 ^ q` form an interval around it. For each count of digits the two
neighbours of the number on the grid of decimals with so many digits are tried; the first grid with
a neighbour inside the interval gives the answer. -/

namespace RecordSql.Double

/-- The numbers `low / den` to `high / den` round to `mid / den`, the ends only if `closed`. -/
structure Interval where
  low : Nat
  mid : Nat
  high : Nat
  den : Nat
  closed : Bool

/-- What rounds to a positive number. The gap below a power of two is half the gap above it, save at
the least exponent. -/
def interval (x : Double) : Interval :=
  let m := x.mantissa
  let e := x.exponent - 2
  let up := Nat.pow 2 e.toNat
  let below := if x.fraction = 0 ∧ 1 < x.biased then 1 else 2
  ⟨(4 * m - below) * up, 4 * m * up, (4 * m + 2) * up, Nat.pow 2 (-e).toNat, m % 2 == 0⟩

namespace Interval

/-- Whether `n / d` lies inside. -/
def contains (i : Interval) (n d : Nat) : Bool :=
  if i.closed then i.low * d ≤ n * i.den && n * i.den ≤ i.high * d
  else i.low * d < n * i.den && n * i.den < i.high * d

/-- The place of the first digit: the middle lies in `[10 ^ (place - 1), 10 ^ place)`. -/
def place (i : Interval) : Int :=
  if i.den ≤ i.mid then decimalLength (i.mid / i.den)
  else -((List.range 400).find? fun j => i.den ≤ i.mid * Nat.pow 10 (j + 1)).getD 0

/-- The neighbour of the middle on the grid of multiples of `10 ^ e`, if one lies inside; of two the
nearer, and at a tie the even one. -/
def onGrid? (i : Interval) (e : Int) : Option Nat :=
  let up := Nat.pow 10 e.toNat
  let down := Nat.pow 10 (-e).toNat
  let n := i.mid * down
  let d := i.den * up
  let f := n / d
  let r := n % d
  match i.contains (f * up) down, i.contains ((f + 1) * up) down with
  | true, true => some (if 2 * r < d ∨ (2 * r = d ∧ f % 2 = 0) then f else f + 1)
  | true, false => some f
  | false, true => some (f + 1)
  | false, false => none

end Interval

/-- Drops the zeros at the end of the digits. -/
def trim (digits : Nat) (exponent : Int) : Nat → Decimal
  | 0 => ⟨digits, exponent⟩
  | fuel + 1 =>
    if digits % 10 = 0 ∧ digits ≠ 0 then trim (digits / 10) (exponent + 1) fuel
    else ⟨digits, exponent⟩

/-- The shortest decimal that reads back as a positive finite number. Seventeen digits always do. -/
def shortest (x : Double) : Decimal :=
  let i := x.interval
  let p := i.place
  let hit := (List.range 17).findSome? fun n =>
    let e := p - (n + 1 : Nat)
    (i.onGrid? e).map fun digits => trim digits e (n + 2)
  hit.getD ⟨0, 0⟩

end RecordSql.Double
