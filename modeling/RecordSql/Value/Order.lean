import RecordSql.Objects

/-! The order of values, and lists in that order. Numbers are compared by what they stand for, texts
and byte strings by their units, sequences by their first different items, and sets by inclusion. No
other values are in an order, and a list in which two such meet cannot be sorted. -/

namespace RecordSql

namespace Double

/-- How many of the least numbers above zero make one. -/
def scale : Nat := Nat.pow 2 1074

/-- A number on a scale on which all of them are integers: in units of the least one above zero.
Infinity comes out above every finite number. -/
def scaled (x : Double) : Int :=
  let size : Int := (x.mantissa * Nat.pow 2 (x.exponent + 1074).toNat : Nat)
  if x.isNegative then -size else size

end Double

namespace Value

def scaled? : Value → Option Int
  | bool b => some (if b then Double.scale else 0)
  | int n => some (n * Double.scale)
  | float x => if x.isNaN then none else some x.scaled
  | _ => none

def isNumber : Value → Bool
  | bool _ | int _ | float _ => true
  | _ => false

/-! ### Equality -/

/-- Whether every value of one list has an equal one in another. -/
def includedIn (objects : Objects) (l m : List Value) : Except Fault Bool := do
  let keys ← l.mapM (key objects)
  let others ← m.mapM (key objects)
  return keys.all others.contains

mutual

/-- Whether two values are equal. An object is equal to itself, and to another one that is the same
key. -/
def same (objects : Objects) (v w : Value) : Except Fault Bool :=
  match v, w with
  | list l _, list m _ => sameItems objects l m
  | tuple l _, tuple m _ => sameItems objects l m
  | set l _, set m _ | set l _, fixedSet m _ | fixedSet l _, set m _ | fixedSet l _, fixedSet m _ =>
    if l.length = m.length then includedIn objects l m else .ok false
  | dict es _, dict fs _ =>
    if es.length = fs.length then sameEntries objects es fs else .ok false
  | literal v _, literal w _ => same objects v w
  | operator t v _, operator u w _ => do
    if ← same objects t u then same objects v w else return false
  | object i c, object j d => do
    if i = j then return true
    (object i c).checkEquality objects
    (object j d).checkEquality objects
    match objects.key i, objects.key j with
    | .ok k, .ok l => return k = l
    | _, _ => return false
  | v, w => do
    v.checkEquality objects
    w.checkEquality objects
    match v.key objects, w.key objects with
    | .ok k, .ok l => return k = l
    | _, _ => return false

def sameItems (objects : Objects) : List Value → List Value → Except Fault Bool
  | [], [] => .ok true
  | v :: l, w :: m => do if ← same objects v w then sameItems objects l m else return false
  | _, _ => .ok false

/-- Whether entries all have equal ones among some others. -/
def sameEntries (objects : Objects) :
    List (Value × Value) → List (Value × Value) → Except Fault Bool
  | [], _ => .ok true
  | (k, v) :: es, fs => do
    let key ← k.key objects
    match fs.find? fun f => (f.1.key objects).toOption = some key with
    | none => return false
    | some f => if ← same objects v f.2 then sameEntries objects es fs else return false

end

/-! ### Order -/

/-- What comparing two values ends in that are not in an order. -/
def unordered (objects : Objects) (v w : Value) : Except Fault Bool := do
  match v with
  | object i _ => apply objects i "__lt__"
  | _ => pure ()
  match w with
  | object i _ => apply objects i "__gt__"
  | _ => pure ()
  throw (.notOrdered "<" v.typeName w.typeName)

mutual

/-- Whether a value comes before another one. A number that is none comes before nothing. -/
def less (objects : Objects) (v w : Value) : Except Fault Bool :=
  match v, w with
  | text s, text t => .ok (Text.codes s < Text.codes t)
  | bytes bs, bytes cs => .ok (bs < cs)
  | list l _, list m _ => lessItems objects l m
  | tuple l _, tuple m _ => lessItems objects l m
  | set l _, set m _ | set l _, fixedSet m _ | fixedSet l _, set m _ | fixedSet l _, fixedSet m _ =>
    if l.length < m.length then includedIn objects l m else .ok false
  | v, w =>
    if v.isNumber && w.isNumber then
      match v.scaled?, w.scaled? with
      | some m, some n => .ok (m < n)
      | _, _ => .ok false
    else unordered objects v w

/-- Whether a list comes before another one: its first different item does, or it ends there. -/
def lessItems (objects : Objects) : List Value → List Value → Except Fault Bool
  | [], m => .ok (!m.isEmpty)
  | _ :: _, [] => .ok false
  | v :: l, w :: m => do
    if ← same objects v w then lessItems objects l m else less objects v w

end

/-! ### Sorting -/

/-- The run that a list begins with behind a value, upwards or strictly downwards, and the rest. -/
def run (objects : Objects) (down : Bool) (previous : Value) :
    List Value → Except Fault (List Value × List Value)
  | [] => .ok ([], [])
  | v :: l => do
    if (← less objects v previous) = down then
      let (front, rest) ← run objects down v l
      return (v :: front, rest)
    else return ([], v :: l)

/-- The place of a value in a sorted list, behind its equals, found by halving the list. -/
def place (objects : Objects) (v : Value) (l : List Value) : Except Fault Nat :=
  match h : l[l.length / 2]? with
  | none => .ok 0
  | some w => do
    have : l.length / 2 < l.length := (List.getElem?_eq_some_iff.1 h).1
    if ← less objects v w then place objects v (l.take (l.length / 2))
    else return l.length / 2 + 1 + (← place objects v (l.drop (l.length / 2 + 1)))
termination_by l.length
decreasing_by all_goals simp only [List.length_take, List.length_drop]; omega

def inserted (objects : Objects) (l : List Value) (v : Value) : Except Fault (List Value) := do
  let n ← place objects v l
  return l.take n ++ v :: l.drop n

/-- Values in their order: the run that they begin with, and the others put into it. -/
def sorted (objects : Objects) : List Value → Except Fault (List Value)
  | v :: w :: l => do
    let down ← less objects w v
    let (front, rest) ← run objects down w l
    let front := v :: w :: front
    rest.foldlM (inserted objects) (if down then front.reverse else front)
  | l => .ok l

end Value

end RecordSql
