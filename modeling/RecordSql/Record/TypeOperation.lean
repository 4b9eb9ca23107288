import RecordSql.Record.FieldType
import RecordSql.Value.Calculation

/-! What the parts of type expressions come to: truth, items, attributes, choices, calculations and
comparisons of classes and other values. -/

namespace RecordSql

/-- Where type expressions find what they need: the objects that values refer to, the values under
names, and the attributes of values. Inside a gathering, names stand for what is gathered from. -/
structure TypeScope where
  objects : Objects
  named : String → Option TypeValue
  read : Value → String → Except Fault Value
  isInner : Bool := false

namespace TypeScope

/-- The scope inside a gathering, with values under some more names. -/
def within (scope : TypeScope) (vars : List (String × TypeValue)) : TypeScope :=
  { scope with
    named := fun s => (vars.lookup s).or (if scope.isInner then scope.named s else none)
    isInner := true }

end TypeScope

namespace TypeValue

/-- A value with its items in view. -/
def opened : TypeValue → TypeValue
  | other (.tuple l _) => row (l.map ofValue)
  | other (.list l _) => series (l.map ofValue)
  | t => t

/-- Whether a value counts as true. -/
def truth (objects : Objects) : TypeValue → Except Fault Bool
  | row l | series l => .ok (!l.isEmpty)
  | other v => v.truth objects
  | _ => .ok true

/-- The items of a value that is gone through. Types for parts stay together. -/
def items (objects : Objects) (t : TypeValue) : Except Fault (List TypeValue) :=
  match t.opened with
  | row l | series l => .ok l
  | parts name args => .ok [parts name args]
  | other v => (v.items objects).map (·.map ofValue)
  | t => .error (.notIterable t.typeName)

def spreadItems (objects : Objects) (t : TypeValue) : Except Fault (List TypeValue) :=
  (t.items objects).mapError fun _ => .notSpread t.typeName

/-- The items of a value under names, of which a single one stands for the value itself. -/
def unpacked (objects : Objects) (names : List String) (isSingle : Bool) (t : TypeValue) :
    Except Fault (List (String × TypeValue)) := do
  if isSingle then return names.map (·, t)
  match t.items objects with
  | .error _ => throw (.notUnpackable t.typeName)
  | .ok l =>
    if l.length < names.length then throw (.tooFewItems names.length l.length)
    else if names.length < l.length then throw (.tooManyItems names.length)
    else return names.zip l

/-! ### Items -/

/-- The classes with types for the parts of their values. -/
def openClasses : List String :=
  ["list", "dict", "tuple", "set", "frozenset", "type", "enumerate", "BaseExceptionGroup",
    "ExceptionGroup"]

/-- An item of a list, counted from its end below zero. -/
def itemAt? {α : Type} (l : List α) (i : Int) : Option α :=
  let k := if i < 0 then i + l.length else i
  if k < 0 then none else l[k.toNat]?

/-- An item of a sequence by its index. -/
def indexed {α : Type} (type : String) (l : List α) (i : TypeValue) : Except Fault α :=
  let index? := match i with
    | other v => v.integer?
    | _ => none
  match index? with
  | none => .error (.notIndex type i.typeName)
  | some n =>
    if !Value.isPlace n then .error .indexRoom
    else (itemAt? l n).elim (.error (.indexRange type)) .ok

/-- The item of a dictionary under a key. -/
def entryAt (objects : Objects) (es : List (Value × Value)) (key : Value) :
    Except Fault TypeValue := do
  if key.typeName = "slice" then throw (.unhashable "slice")
  let sought ← key.key objects
  match es.find? fun e => (e.1.key objects).toOption = some sought with
  | some e => return ofValue e.2
  | none => throw (.missingKey key)

/-- What a value has between brackets behind it: types for the parts of a class, or an item. -/
def itemOf (objects : Objects) (t index : TypeValue) : Except Fault TypeValue :=
  match t.opened with
  | cls name =>
    if !openClasses.contains name then .error (.classSubscript name)
    else match index.opened with
      | row l => .ok (parts name l)
      | index => .ok (parts name [index])
  | row l => indexed "tuple" l index
  | series l => indexed "list" l index
  | other (.text s) => do
    return other (.text (← indexed "str" (Text.letters s) index))
  | other (.bytes bs) => do
    return other (.int (← indexed "bytes" bs index).toNat)
  | other (.dict es _) => do entryAt objects es (← index.toValue objects)
  | other (.cls c) =>
    if c.maker = "ModelMetaclass" then .error (.withoutParts c.shown)
    else .error (.classSubscript c.name)
  | other v => .error (.badSubscript v.typeName)
  | t => do throw (.notGeneric (← t.partText objects))

/-- A bound of a part of a sequence, if there is one. -/
def bound? : TypeValue → Except Fault (Option Int)
  | other .null => .ok none
  | other v => v.integer?.elim (.error .badBound) (.ok ∘ some)
  | _ => .error .badBound

/-- The indices of a part of a sequence of some length, by its first one, the one at which it stops,
and the step from each to the next. -/
def indices (length : Nat) (low high : Option Int) (step : Int) : List Nat :=
  let isUp := 0 < step
  let least : Int := if isUp then 0 else -1
  let most : Int := if isUp then length else length - 1
  let clamped (i : Int) : Int := if i < 0 then max (i + length) least else min i most
  let start := (low.map clamped).getD (if isUp then least else most)
  let stop := (high.map clamped).getD (if isUp then most else least)
  let distance := if isUp then stop - start else start - stop
  let count := (distance + step.natAbs - 1) / step.natAbs
  (List.range count.toNat).map fun (k : Nat) => (start + k * step).toNat

/-- A part of a sequence, or what a class has with the description of one for its parts. -/
def sliceOf (objects : Objects) (t low high step : TypeValue) : Except Fault TypeValue := do
  let cut {α : Type} (l : List α) : Except Fault (List α) := do
    let stride ← bound? step
    if stride = some 0 then throw .zeroStep
    return (indices l.length (← bound? low) (← bound? high) (stride.getD 1)).filterMap (l[·]?)
  match t.opened with
  | row l => return row (← cut l)
  | series l => return series (← cut l)
  | other (.text s) => return other (.text (String.join (← cut (Text.letters s))))
  | other (.bytes bs) => return other (.bytes (← cut bs))
  | t =>
    let shown ← shownTexts objects [low, high, step]
    t.itemOf objects (other (.member "slice" ("slice(" ++ commaSeparated shown ++ ")")))

/-! ### Attributes -/

/-- An attribute of a value. What is made of a class by its parts has those of the class. -/
def partOf (scope : TypeScope) (t : TypeValue) (name : String) : Except Fault TypeValue :=
  let ofClass (c : String) : Except Fault TypeValue :=
    (Value.plainClassAttribute? c name).elim (.error (.noClassAttribute c name)) (.ok ∘ ofValue)
  let ofSample (v : Value) : Except Fault TypeValue :=
    (v.ownAttribute? name).elim (.error (.noAttribute v.typeName name)) (.ok ∘ ofValue)
  match t, name with
  | cls c, _ => ofClass c
  | parts c _, "__origin__" => .ok (cls c)
  | parts _ l, "__args__" | choice l, "__args__" => .ok (row l)
  | parts .., "__parameters__" | choice _, "__parameters__" => .ok (row [])
  | parts .., "__unpacked__" => .ok (other (.bool false))
  | parts .., "__class__" | choice _, "__class__" => .ok (cls t.typeName)
  | parts c _, _ => ofClass c
  | choice _, _ => .error (.noAttribute t.typeName name)
  | row _, _ => ofSample (.tuple [])
  | series _, _ => ofSample (.list [])
  | other v, _ => do return ofValue (← scope.read v name)

/-! ### Signs -/

def notJoined (sign : String) (a b : TypeValue) : Except Fault TypeValue :=
  .error (Value.notJoinedBy sign a.typeName b.typeName)

/-- Several values so many times in a row. -/
def repeatedBy (make : List TypeValue → TypeValue) (l : List TypeValue) (count : Value) :
    Option (Except Fault TypeValue) :=
  count.integer?.map fun n => do return make (← Value.repeated .noRoom l n)

def join (sign : String) (a b : TypeValue) : Except Fault TypeValue :=
  let fault := notJoined sign a b
  if sign = "|" && (a.isAlternative || b.isAlternative) then a.either b
  else match sign, a.opened, b.opened with
    | "+", row l, row m => .ok (row (l ++ m))
    | "+", series l, series m => .ok (series (l ++ m))
    | "*", row l, other n | "*", other n, row l => (repeatedBy row l n).getD fault
    | "*", series l, other n | "*", other n, series l => (repeatedBy series l n).getD fault
    | sign, other v, other w => do return ofValue (← v.joined sign w)
    | _, _, _ => fault

def signed (sign : String) : TypeValue → Except Fault TypeValue
  | other v => do return ofValue (← v.signed sign)
  | t => .error (.notOperand sign t.typeName)

/-! ### Comparisons -/

def isOne : TypeValue → TypeValue → Bool
  | other v, other w => (other v).same (other w) || v.isOne w
  | cls a, cls b => a == b
  | _, _ => false

def equals (objects : Objects) (a b : TypeValue) : Except Fault Bool := do
  Value.same objects (← a.toValue objects) (← b.toValue objects)

/-- Whether some values hold an equal one. -/
def isAmong (objects : Objects) (t : TypeValue) : List TypeValue → Except Fault Bool
  | [] => .ok false
  | u :: l => do if ← t.equals objects u then return true else isAmong objects t l

/-- Whether a value holds another one: as an item, a key or a part. -/
def holds (objects : Objects) (t u : TypeValue) : Except Fault Bool :=
  match t.opened, u with
  | other (.text s), other (.text key) => .ok (Value.occurs key.toList s.toList)
  | other (.text _), u => .error (.textNeeded u.typeName)
  | row l, u | series l, u => u.isAmong objects l
  | other v, u => do
    match v with
    | .set .. | .fixedSet .. | .dict .. => let _ ← (← u.toValue objects).key objects
    | _ => pure ()
    match v.items objects with
    | .ok l => u.isAmong objects (l.map ofValue)
    | .error _ => throw (.notContainer v.typeName)
  | parts .., _ => .ok false
  | t, _ => .error (.notContainer t.typeName)

/-- Whether a comparison of two values holds. -/
def compare (objects : Objects) (sign : String) (a b : TypeValue) : Except Fault Bool :=
  match sign with
  | "is" => .ok (a.isOne b)
  | "is not" => .ok (!a.isOne b)
  | "==" => a.equals objects b
  | "!=" => (a.equals objects b).map (!·)
  | "in" => b.holds objects a
  | "not in" => (b.holds objects a).map (!·)
  | sign => do
    let fault := Fault.notOrdered sign a.typeName b.typeName
    match (← a.toValue objects).ordered objects sign (← b.toValue objects) with
    | .error (.notOrdered ..) => throw fault
    | found => found

/-! ### Classes -/

def classOf : TypeValue → TypeValue
  | other v => ofValue (.cls v.classOf)
  | t => cls t.typeName

end TypeValue

end RecordSql
