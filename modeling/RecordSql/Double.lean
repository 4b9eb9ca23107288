/-! Binary floating-point numbers of 64 bits, by their bit pattern, and rounding of a decimal to the
nearest of them. All arithmetic is on natural numbers and integers. -/

namespace RecordSql

/-- A number `digits · 10 ^ exponent`. -/
structure Decimal where
  digits : Nat
  exponent : Int
  deriving DecidableEq, Inhabited

/-- A binary floating-point number, by its bit pattern: a sign, eleven bits of biased exponent and
fifty-two bits of fraction. -/
structure Double where
  bits : UInt64
  deriving DecidableEq, Inhabited

namespace Double

/-! ### Parts -/

/-- The pattern of the sign alone. -/
def signBit : Nat := 0x8000000000000000

/-- The first number of fifty-three bits. -/
def fullMantissa : Nat := 0x10000000000000

def isNegative (x : Double) : Bool := signBit ≤ x.bits.toNat

def magnitude (x : Double) : Nat := x.bits.toNat % signBit

def biased (x : Double) : Nat := x.magnitude / fullMantissa

def fraction (x : Double) : Nat := x.magnitude % fullMantissa

/-- The magnitude of infinity; above it are the patterns that stand for no number. -/
def infinite : Nat := 0x7FF * fullMantissa

def isInfinite (x : Double) : Bool := x.magnitude == infinite

def isNaN (x : Double) : Bool := infinite < x.magnitude

def isFinite (x : Double) : Bool := x.magnitude < infinite

def isZero (x : Double) : Bool := x.magnitude == 0

/-- A finite number is `mantissa · 2 ^ exponent`, up to its sign. -/
def mantissa (x : Double) : Nat :=
  if x.biased = 0 then x.fraction else x.fraction + fullMantissa

def exponent (x : Double) : Int := (max x.biased 1 : Nat) - 1075

/-- A number from its sign and magnitude. -/
def ofMagnitude (negative : Bool) (n : Nat) : Double :=
  ⟨UInt64.ofNat ((if negative then signBit else 0) + n % signBit)⟩

def infinity (negative : Bool) : Double := ofMagnitude negative infinite

/-- A pattern that stands for no number; the serial tells such patterns apart. -/
def nan (serial : Nat) : Double :=
  ofMagnitude false (infinite + fullMantissa / 2 + serial % (fullMantissa / 2))

/-- The integer that a number is, if it is one. -/
def toInt? (x : Double) : Option Int :=
  if !x.isFinite then none
  else
    let sign : Int := if x.isNegative then -1 else 1
    let e := x.exponent
    if 0 ≤ e then some (sign * (x.mantissa * Nat.pow 2 e.toNat : Nat))
    else
      let unit := Nat.pow 2 (-e).toNat
      if x.mantissa % unit = 0 then some (sign * (x.mantissa / unit : Nat)) else none

/-! ### Rounding -/

/-- Division to the nearest integer; a tie goes to the even one. -/
def roundDiv (num den : Nat) : Nat :=
  let q := num / den
  let r := num % den
  if den < 2 * r ∨ (2 * r = den ∧ q % 2 = 1) then q + 1 else q

/-- The exponent at which the quotient `num / den` fills fifty-three bits, but not below the least
exponent. -/
def unitExponent (num den : Nat) : Int :=
  let e : Int := (num.log2 : Int) - den.log2 - 52
  let short := num * Nat.pow 2 (-e).toNat < fullMantissa * (den * Nat.pow 2 e.toNat)
  max (if short then e - 1 else e) (-1074)

/-- The magnitude nearest to `num / den`; a tie goes to the even one. -/
def nearest (num den : Nat) : Nat :=
  let e := unitExponent num den
  let m := roundDiv (num * Nat.pow 2 (-e).toNat) (den * Nat.pow 2 e.toNat)
  min ((e + 1074).toNat * fullMantissa + m) infinite

/-- How many decimal digits a number has; zero has one. -/
def decimalLength (n : Nat) : Nat := (Nat.toDigits 10 n).length

/-- The number nearest to a decimal. A decimal whose first digit stands far outside the range of the
type is not computed with. -/
def ofDecimal (negative : Bool) (d : Decimal) : Double :=
  let place := (decimalLength d.digits : Int) + d.exponent
  if d.digits = 0 ∨ place < -330 then ofMagnitude negative 0
  else if 330 < place then infinity negative
  else ofMagnitude negative
    (nearest (d.digits * Nat.pow 10 d.exponent.toNat) (Nat.pow 10 (-d.exponent).toNat))

end Double

end RecordSql
