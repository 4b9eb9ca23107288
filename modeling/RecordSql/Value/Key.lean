import RecordSql.Fault

/-! When two values are the same key of a dictionary. -/

namespace RecordSql

/-- A part of a key. Composite values announce how many parts follow. -/
inductive Atom where
  | absent
  | null
  | int (n : Int)
  | float (x : Double)
  | text (s : String)
  | bytes (bs : List UInt8)
  | list (size : Nat)
  | tuple (size : Nat)
  | set (size : Nat)
  | dict (size : Nat)
  | literal
  | operator
  | feed (id : Nat)
  | object (id : Nat)
  | record (cls size : Nat)
  | cls (c : ClassRef)
  | member (type shown : String)
  deriving DecidableEq

namespace Atom

/-- Numbers that tell a part from all others. -/
def codes : Atom → List Int
  | absent => [0]
  | null => [1]
  | int n => [2, n]
  | float x => [3, x.bits.toNat]
  | text s => 4 :: textCodes s
  | bytes bs => 5 :: bs.length :: bs.map fun b => (b.toNat : Int)
  | list size => [6, size]
  | tuple size => [7, size]
  | set size => [8, size]
  | dict size => [9, size]
  | literal => [10]
  | operator => [11]
  | feed id => [12, id]
  | object id => [13, id]
  | record c size => [14, c, size]
  | cls (.declared id ..) => [15, id]
  | cls (.plain name) => 16 :: textCodes name
  | member type shown => 17 :: textCodes type ++ textCodes shown
where
  textCodes (s : String) : List Int := s.length :: s.toList.map fun c => (c.toNat : Int)

end Atom

/-- A key: the parts of a value from left to right. It is found at the place that some of them are;
the others tell it from its like. -/
structure Key where
  place : List Atom
  likeness : List Atom := []
  deriving DecidableEq

namespace Key

def atom (a : Atom) : Key := { place := [a] }

def under (a : Atom) (k : Key) : Key := { k with place := a :: k.place }

/-- The key of several parts, one after the other. -/
def joined (k l : Key) : Key := ⟨k.place ++ l.place, k.likeness ++ l.likeness⟩

def toldBy (k l : Key) : Key := { k with likeness := k.likeness ++ l.place ++ l.likeness }

/-- Whether a key stands before another one where their order does not count. -/
def precedes (k l : Key) : Bool :=
  let codes (k : Key) : List Int := (k.place ++ k.likeness).flatMap Atom.codes
  !decide (codes l < codes k)

/-- The key of several parts in no order. -/
def gathered (l : List Key) : Key := (l.mergeSort precedes).foldl joined ⟨[], []⟩

end Key

abbrev ObjectKey := Nat → Except Fault Key

namespace Value

/-- The number that a floating-point key stands for: an integer when it is one. -/
def numberAtom (x : Double) : Atom :=
  match x.toInt? with
  | some n => .int n
  | none => .float x

mutual

/-- The key of a value. Truth values and floating-point numbers are the same keys as the integers
they equal. Collections that can change are no keys; where values are only compared they may be
taken for some. The items of a set and the entries of a dictionary are in no order. -/
def keyWith (objects : ObjectKey) (compared : Bool) : Value → Except Fault Key
  | null => .ok (.atom .null)
  | bool b => .ok (.atom (.int (if b then 1 else 0)))
  | int n => .ok (.atom (.int n))
  | float x => .ok (.atom (numberAtom x))
  | text s => .ok (.atom (.text s))
  | bytes bs => .ok (.atom (.bytes bs))
  | tuple l _ => (keysWith objects compared l).map (.under (.tuple l.length))
  | fixedSet l _ => do
    return .under (.set l.length) (.gathered (← itemKeysWith objects compared l))
  | literal v _ => (v.keyWith objects compared).map (.under .literal)
  | operator t v _ => do
    return .under .operator ((← t.keyWith objects compared).joined (← v.keyWith objects compared))
  | feed i => .ok (.atom (.feed i))
  | object i _ => objects i
  | cls c => .ok (.atom (.cls c))
  | member type shown => .ok (.atom (.member type shown))
  | list l _ =>
    if compared then (keysWith objects compared l).map (.under (.list l.length))
    else .error (.unhashable "list")
  | set l _ =>
    if compared then do
      return .under (.set l.length) (.gathered (← itemKeysWith objects compared l))
    else .error (.unhashable "set")
  | dict es _ =>
    if compared then do
      return .under (.dict es.length) (.gathered (← entryKeysWith objects compared es))
    else .error (.unhashable "dict")

def keysWith (objects : ObjectKey) (compared : Bool) : List Value → Except Fault Key
  | [] => .ok ⟨[], []⟩
  | v :: l => do return (← v.keyWith objects compared).joined (← keysWith objects compared l)

def itemKeysWith (objects : ObjectKey) (compared : Bool) : List Value → Except Fault (List Key)
  | [] => .ok []
  | v :: l => do return (← v.keyWith objects compared) :: (← itemKeysWith objects compared l)

def entryKeysWith (objects : ObjectKey) (compared : Bool) :
    List (Value × Value) → Except Fault (List Key)
  | [] => .ok []
  | (k, v) :: es => do
    let key := (← k.keyWith objects compared).joined (← v.keyWith objects compared)
    return key :: (← entryKeysWith objects compared es)

end

end Value

end RecordSql
