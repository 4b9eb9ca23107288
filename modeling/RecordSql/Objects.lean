import RecordSql.Assoc
import RecordSql.Value.ClassAttributes
import RecordSql.Value.Display
import RecordSql.Value.Key
import RecordSql.Value.References
import RecordSql.Value.SetOrder

/-! What can be asked of values: their text, their truth, their key, an attribute, and their items.

Objects answer as their classes say. A class may have something else than a function under the name
of a rule; then what the rule is needed for fails. -/

namespace RecordSql

/-- What the class of an object has under the name of a rule: the function that all objects of its
kind have, or none; null, by which it says that its objects do not follow the rule; or something
else, which may not be there to be read. -/
inductive Rule where
  | usual
  | denied
  | other (found : Except Fault Value)

abbrev Rules := Nat → String → Rule

/-- What can be asked of the objects that values refer to: their text inside what is being written
and on its own, their key, an attribute, what their class has for a rule, and the items that going
through them yields. -/
structure Objects where
  shown : ObjectText
  told : Nat → Except Fault String
  key : ObjectKey
  read : Nat → String → Except Fault Value
  rule : Rules
  items? : Nat → Option (Except Fault (List Value))

namespace Value

/-! ### Rules -/

/-- The fault of calling a value. An object can be called if its class has something for that, which
is no function either. -/
def uncallable (rules : Rules) (v : Value) : Fault :=
  match v with
  | object i c => match rules i "__call__" with
    | .usual => .notCallable c.name
    | .denied => .notCallable "NoneType"
    | .other (.ok w) => .notCallable w.typeName
    | .other (.error f) => f
  | v => .notCallable v.typeName

def isCallable (rules : Rules) (v : Value) : Bool :=
  match v with
  | object i _ => match rules i "__call__" with
    | .usual => false
    | _ => true
  | _ => false

end Value

/-- Applies a rule: nothing but a function will do. -/
def Rule.apply (rules : Rules) : Rule → Except Fault Unit
  | usual => .ok ()
  | denied => .error (.notCallable "NoneType")
  | other (.ok v) => .error (v.uncallable rules)
  | other (.error f) => .error f

namespace Value

def apply (objects : Objects) (i : Nat) (rule : String) : Except Fault Unit :=
  (objects.rule i rule).apply objects.rule

/-! ### Texts -/

def shown (objects : Objects) (v : Value) : Except Fault String := v.shownWith objects.shown []

/-- A value as a text of its own: a text stands for itself. -/
def told (objects : Objects) (v : Value) : Except Fault String :=
  match v with
  | text s => .ok s
  | object i _ => objects.told i
  | v => v.shown objects

/-- A value as part of a longer text: a text stands for itself. -/
def written (objects : Objects) (v : Value) : Except Fault String :=
  match v with
  | text s => .ok s
  | object i _ => do
    apply objects i "__format__"
    objects.told i
  | v => v.shown objects

@[simp] theorem written_text (objects : Objects) (s : String) :
    (text s).written objects = .ok s := rfl

/-! ### Truth -/

/-- Whether a value counts as true. An object does, unless its class has a rule for it. -/
def truth (objects : Objects) (v : Value) : Except Fault Bool :=
  match v with
  | object i _ => do
    apply objects i "__bool__"
    apply objects i "__len__"
    return true
  | v => .ok v.truthy

/-! ### Attributes -/

def classAttribute? (c : ClassRef) (name : String) : Option Value :=
  match c with
  | .plain type => plainClassAttribute? type name
  | c => match name with
    | "__name__" => some (text c.name)
    | "__qualname__" => some (text c.qualname)
    | "__class__" => some (cls (.plain c.maker))
    | _ => none

def attrBy (read : Nat → String → Except Fault Value) (v : Value) (name : String) :
    Except Fault Value :=
  match v with
  | object i _ => read i name
  | cls c => (classAttribute? c name).elim (.error (.noClassAttribute c.name name)) .ok
  | v => (v.ownAttribute? name).elim (.error (.noAttribute v.typeName name)) .ok

def attr (objects : Objects) (v : Value) (name : String) : Except Fault Value :=
  v.attrBy objects.read name

def attrOr (objects : Objects) (v : Value) (name : String) (absent : Value) :
    Except Fault Value := do
  return (← Fault.ifPresent (v.attr objects name)).getD absent

/-- A value is told from texts and numbers by its class, which an object may refuse to tell. -/
def checkKind (objects : Objects) (v : Value) : Except Fault Unit :=
  match v with
  | object _ _ => (v.attrOr objects "__class__" null).map fun _ => ()
  | _ => .ok ()

/-- A value is told from mappings and sequences by its class, which an object must not hide. The
class that an object tells is taken for one that is neither. -/
def checkClass (objects : Objects) (v : Value) : Except Fault Unit :=
  match v with
  | object i _ => do
    match ← objects.read i "__class__" with
    | cls _ => return ()
    | _ => throw .classNeeded
  | _ => .ok ()

/-- What is left of calling an attribute that is no function. -/
def called {α : Type} (objects : Objects) (v : Value) (name : String) : Except Fault α := do
  throw ((← v.attr objects name).uncallable objects.rule)

def mapping (objects : Objects) (v : Value) : Except Fault (List (Value × Value)) :=
  match v with
  | dict es _ => .ok es
  | v => v.called objects "items"

/-- The name of what a table is registered for: that of a class, the one that an object bears, or
else the text of the value, which must have one in any case. -/
def entityName (objects : Objects) (v : Value) : Except Fault Value := do
  let shown ← v.shown objects
  v.attrOr objects "__qualname__" (text shown)

/-- The short name of an entity, which only classes and objects that bear one have. -/
def entityLabel (objects : Objects) (v : Value) : Except Fault String := do
  (← v.attr objects "__name__").written objects

/-! ### Keys -/

def key (objects : Objects) (v : Value) : Except Fault Key := v.keyWith objects.key false

/-- What comparing a value with a text ends in, unless it is a text itself: no value but a text
equals one. -/
def checkEquality (objects : Objects) (v : Value) : Except Fault Unit :=
  match v with
  | object i _ => apply objects i "__eq__"
  | _ => .ok ()

/-- What looking a value up among texts ends in, unless it is a text itself. One that is no key is
compared with them. -/
def checkChoice (objects : Objects) (v : Value) : Except Fault Unit :=
  match v.key objects with
  | .ok _ => .ok ()
  | .error f => if f.kind = .type then v.checkEquality objects else .error f

/-- What a value names among things with names, to all of which it is compared. -/
def sought {α : Type} (objects : Objects) (v : Value) (l : List α) (name : α → String) :
    Except Fault (Option α) :=
  match l with
  | [] => .ok none
  | l => do
    v.checkEquality objects
    return l.find? fun a => v.text? = some (name a)

@[simp] theorem sought_text {α : Type} (objects : Objects) (s : String) (l : List α)
    (name : α → String) :
    (text s).sought objects l name = .ok (l.find? fun a => s = name a) := by
  cases l with
  | nil => rfl
  | cons a l =>
    have h : (fun a => decide ((text s).text? = some (name a))) = fun a => decide (s = name a) := by
      funext a
      simp [text?]
    exact congrArg (fun p => Except.ok ((a :: l).find? p)) h

/-- Puts an entry among others under different keys. It is compared with those that are found at its
place; where the keys are equal, its value takes the place of the other one. -/
def putDistinct (objects : Objects) (k : Key) (e : Value × Value) :
    Assoc Key (Value × Value) → Except Fault (Assoc Key (Value × Value))
  | [] => .ok [(k, e)]
  | d :: m => do
    if d.1.place = k.place && !d.2.1.isOne e.1 then d.2.1.checkEquality objects
    if d.1 = k then return (d.1, d.2.1, e.2) :: m
    else return d :: (← putDistinct objects k e m)

/-- Entries under different keys: of equal keys the first one and the last of their values. -/
def distinctEntries (objects : Objects) (es : List (Value × Value)) :
    Except Fault (List (Value × Value)) := do
  let keyed ← es.foldlM (fun m e => do putDistinct objects (← e.1.key objects) e m) []
  return Assoc.values keyed

/-- Values under different keys: the first of equal ones. -/
def distinct (objects : Objects) (l : List Value) : Except Fault (List Value) := do
  return (← distinctEntries objects (l.map fun v => (v, null))).map (·.1)

/-- The arguments by name that a mapping gives to a function. A value that tells keys passes for
one, but has no function for that. -/
def keywords (objects : Objects) (function : String) (v : Value) :
    Except Fault (List (String × Value)) :=
  match v with
  | dict es _ => es.mapM fun e => match e.1 with
    | text name => .ok (name, e.2)
    | _ => .error .keywordNotText
  | v => match v.attr objects "keys" with
    | .ok found => .error (found.uncallable objects.rule)
    | .error f => .error (if f.kind = .attr then .notKeywords function v.typeName else f)

/-! ### Items -/

/-- The items of an object as its class says; asking for them one by one is a rule of its own. -/
def objectItems (objects : Objects) (i : Nat) (c : ClassRef) : Except Fault (List Value) :=
  match objects.rule i "__iter__" with
  | .usual => match objects.items? i with
    | some items => items
    | none => do
      apply objects i "__getitem__"
      throw (.notIterable c.name)
  | .denied | .other (.ok null) => .error (.notIterable c.name)
  | .other (.ok v) => .error (v.uncallable objects.rule)
  | .other (.error _) => do
    apply objects i "__getitem__"
    throw (.notIterable c.name)

/-- The items of a value that can be gone through again and again. -/
def items (objects : Objects) (v : Value) : Except Fault (List Value) :=
  match v with
  | text s => .ok ((Text.letters s).map .text)
  | bytes bs => .ok (bs.map fun b => .int b.toNat)
  | list l _ | tuple l _ | set l _ | fixedSet l _ => .ok l
  | dict es _ => .ok (es.map (·.1))
  | object i c => objectItems objects i c
  | v => .error (.notIterable v.typeName)

/-- Whether a value can be gone through, as far as its class tells. -/
def isIterable (objects : Objects) (v : Value) : Except Fault Bool :=
  match v with
  | feed _ => .ok true
  | object i _ => do
    v.checkClass objects
    match objects.rule i "__iter__" with
    | .usual => return (objects.items? i).isSome
    | .denied => return false
    | .other _ => return true
  | v => .ok (v.items objects).isOk

/-- Whether one list stands inside another without gaps. -/
def occurs (part : List Char) : List Char → Bool
  | [] => part.isEmpty
  | c :: cs => part.isPrefixOf (c :: cs) || occurs part cs

/-- Whether a text is among some items, which are compared with it up to there. -/
def among (objects : Objects) (key : String) : List Value → Except Fault Bool
  | [] => .ok false
  | text s :: l => if s = key then .ok true else among objects key l
  | v :: l => do
    v.checkEquality objects
    among objects key l

def objectHolds (objects : Objects) (i : Nat) (c : ClassRef) (key : String) :
    Except Fault Bool :=
  match objects.rule i "__contains__" with
  | .usual => match objects.rule i "__iter__", objects.items? i with
    | .usual, none => do
      apply objects i "__getitem__"
      throw (.notContainer c.name)
    | _, _ => match objectItems objects i c with
      | .ok l => among objects key l
      | .error f => if f.kind = .type then .error (.notContainer c.name) else .error f
  | .denied | .other (.ok null) => .error (.noContainer c.name)
  | .other (.ok v) => .error (v.uncallable objects.rule)
  | .other (.error f) => .error f

/-- Whether a value that is no feed holds a text: as a key, an item or a part. -/
def contains (objects : Objects) (v : Value) (key : String) : Except Fault Bool :=
  match v with
  | text s => .ok (occurs key.toList s.toList)
  | bytes _ => .error .bytesNeeded
  | list l _ | tuple l _ => among objects key l
  | set l _ | fixedSet l _ => .ok (l.any fun x => x.text? = some key)
  | dict es _ => .ok (es.any fun e => e.1.text? = some key)
  | object i c => objectHolds objects i c key
  | v => .error (.notContainer v.typeName)

def item (v : Value) (key : String) : Except Fault Value :=
  match v with
  | dict es _ => .ok ((lookup? es key).getD .null)
  | v => .error (.badSubscript v.typeName)

end Value

end RecordSql
