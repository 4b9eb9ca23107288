import RecordSql.Value

/-! The order in which a set goes through its items.

A set has a table of places, as many as a power of two. An item has a number; it goes to the place
that the number leaves as a remainder, or, if that is taken, to one nearby or to another one that
the rest of the number leads to. When three fifths of the places are taken, the items move to a
larger table, one by one. Only numbers, empty texts and tuples of them have a number that is the
same each time; a set with other items goes through them as they came. -/

namespace RecordSql

/-- Places for items with their numbers. -/
abbrev Places := Array (Option (Nat × Value))

namespace Places

/-- How many places a table has at least. -/
def leastSize : Nat := 8

def empty (size : Nat) : Places := Array.replicate size none

def isTaken (p : Places) (i : Nat) : Bool := ((p[i]?).bind id).isSome

/-- How many places behind a taken one are tried before the search goes on elsewhere. -/
def nearby : Nat := 9

/-- A free place, searched for from a place on and with the rest of a number, so many times. -/
def freePlace? (p : Places) : Nat → Nat → Nat → Option Nat
  | 0, _, _ => none
  | rounds + 1, i, number =>
    let count := if i + nearby < p.size then nearby + 1 else 1
    match (List.range count).find? fun k => !p.isTaken (i + k) with
    | some k => some (i + k)
    | none =>
      let number := number / 32
      freePlace? p rounds ((i * 5 + 1 + number) % p.size) number

/-- The table with one more item. -/
def putting (p : Places) (number : Nat) (v : Value) : Places :=
  match p.freePlace? (p.size + 13) (number % p.size) number with
  | some i => p.setIfInBounds i (some (number, v))
  | none => p

def items (p : Places) : List (Nat × Value) := p.toList.filterMap id

/-- The least power of two above a count, from one on and doubled so many times at most. -/
def sizeAbove (count : Nat) : Nat → Nat → Nat
  | 0, size => size
  | room + 1, size => if count < size then size else sizeAbove count room (size * 2)

/-- The table with one more item, or a larger one if too many places are taken then. -/
def adding (p : Places) (number : Nat) (v : Value) : Places :=
  let p := p.putting number v
  let count := p.items.length
  if count * 5 < (p.size - 1) * 3 then p
  else
    let wanted := if 50000 < count then count * 2 else count * 4
    p.items.foldl (fun q e => q.putting e.1 e.2) (empty (sizeAbove wanted wanted leastSize))

end Places

namespace Value

def numberPrime : Nat := 0x1FFFFFFFFFFFFFFF

/-- A number in sixty-four bits. One less than nothing stands for a fault, and is passed. -/
def inWord (isNegative : Bool) (n : Nat) : Nat :=
  let n := if isNegative && n = 1 then 2 else n
  if isNegative && n ≠ 0 then 0x10000000000000000 - n else n

/-- The number of a floating-point number. A half is the inverse of two. -/
def floatNumber? (x : Double) : Option Nat :=
  if x.isNaN then none
  else if x.isInfinite then some (inWord x.isNegative 314159)
  else
    let power := Nat.pow 2 (x.exponent.emod 61).toNat
    some (inWord x.isNegative (x.mantissa % numberPrime * power % numberPrime))

def tupleStep (number item : UInt64) : UInt64 :=
  let mixed := number + item * 14029467366897019727
  (mixed <<< 31 ||| mixed >>> 33) * 11400714785074694791

mutual

def number? : Value → Option Nat
  | bool b => some (if b then 1 else 0)
  | int n => some (inWord (n < 0) (n.natAbs % numberPrime))
  | float x => floatNumber? x
  | text "" | bytes [] => some 0
  | tuple l _ => do
    let mixed ← tupleNumber? 2870177450012600261 l
    let n := (mixed + (UInt64.ofNat l.length ^^^ (2870177450012600261 ^^^ 3527539))).toNat
    return if n = 0xFFFFFFFFFFFFFFFF then 1546275796 else n
  | _ => none

def tupleNumber? (before : UInt64) : List Value → Option UInt64
  | [] => some before
  | v :: l => do tupleNumber? (tupleStep before (UInt64.ofNat (← v.number?))) l

end

/-- Different values in the order in which a set of them goes through them. -/
def setOrder (l : List Value) : List Value :=
  match l.mapM fun v => v.number?.map fun n => (n, v) with
  | none => l
  | some numbered =>
    (numbered.foldl (fun p e => p.adding e.1 e.2) (Places.empty Places.leastSize)).items.map (·.2)

end Value

end RecordSql
