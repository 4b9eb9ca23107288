import RecordSql.Record.Body
import RecordSql.World

/-! The attributes of objects as they are read.

What an object has from its class whatever happens, such as properties and slots, comes before its
own variables, and these come before all else that its class has. Validated objects look after what
they hold beyond their variables. -/

namespace RecordSql.World

/-! ### Members of the class -/

def isMarked (w : World) (c : Nat) (name : String) : Bool :=
  ((w.member? c name).map Member.isMarker).getD false

/-- What the class of a value has for being read, set or deleted as an attribute, if the value is an
object. -/
def hook? (w : World) (v : Value) (rule : String) : Option Member :=
  match v with
  | .object i _ => (w.object? i).bind fun o => w.member? o.cls rule
  | _ => none

/-- Whether a value looks after being set and deleted as an attribute. -/
def isKeeper (w : World) (v : Value) : Bool :=
  (w.hook? v "__set__").isSome || (w.hook? v "__delete__").isSome

section

variable (w : World) (fault : Value → Fault) (o : Instance)

/-- What an object tells for a value of its class, given what calling a value ends in. -/
def heldValue (v : Value) : Except Fault Value :=
  match w.hook? v "__get__" with
  | some rule => .error (fault rule.bare)
  | none => .ok v

/-- What an object tells for a value of its class under a name: its own variable, unless the value
looks after itself. -/
def ownOrHeld (name : String) (v : Value) : Except Fault Value :=
  if (w.hook? v "__get__").isSome && w.isKeeper v then w.heldValue fault v
  else (o.own? name).elim (w.heldValue fault v) .ok

/-- The variables of an object as it tells them. A marker that stands in their place, or in the
place of the rule for reading, asks for them again and again. -/
def toldVariables : Except Fault Value :=
  if w.isMarked o.cls "__dict__" || w.isMarked o.cls "__getattribute__" then .error (.tooDeep "")
  else match w.member? o.cls "__dict__" with
    | some (.constant v) => w.ownOrHeld fault o "__dict__" v
    | some (.property v) => .ok v
    | _ =>
      if w.hasVariables o.cls then .ok (.dict o.vars)
      else .error (.noAttribute (w.cls o.cls).name "__dict__")

/-- What a marker tells on an object: the variable of its name, or null. -/
def markedVariable (name : String) : Except Fault Value := do
  match ← w.toldVariables fault o with
  | .dict es _ => return (Value.lookup? es name).getD .null
  | v => throw (.noAttribute v.typeName "get")

def slotValue (name : String) : Except Fault Value :=
  match w.member? o.cls name with
  | some (.constant v) => w.ownOrHeld fault o name v
  | some (.property v) => .ok v
  | some (.column _) | some (.relation _) =>
    (o.own? name).elim (w.markedVariable fault o name) .ok
  | _ => (Assoc.get? o.slots name).elim (.error (.emptySlot (w.cls o.cls).name name)) .ok

/-- What an object tells for a member of its class. -/
def ofMemberBy (name : String) : Member → Except Fault Value
  | .constant v => w.heldValue fault v
  | .property v => .ok v
  | .slot => (Assoc.get? o.slots name).elim (.error (.emptySlot (w.cls o.cls).name name)) .ok
  | .column _ | .relation _ => w.markedVariable fault o name
  | .routine r _ => .ok (r.ofObject name (w.cls o.cls).name (w.maker o.cls))
  | .registry _ => .ok Member.registryObject
  | .classLink => .ok (.cls (w.ref o.cls))
  | .ownVariables =>
    if w.hasVariables o.cls then .ok (.dict o.vars)
    else .error (.noAttribute (w.cls o.cls).name name)
  | .weakLinks _ => .ok .null
  | .fieldsGiven => w.slotValue fault o givenSlot
  | .extraGiven => w.slotValue fault o extraSlot
  | .fieldsDeclared | .fieldTable => .ok (Member.fieldDescriptions (w.fieldsOf o.cls))
  | .signature => .error (.classAlone (w.cls o.cls).name name)

end

/-- What calling a value ends in: it is no function, and what its class has for calls is none
either, in so many steps. -/
def callFault (w : World) : Nat → Value → Fault
  | 0, v => .notCallable v.typeName
  | depth + 1, v => match v with
    | .object i c =>
      match (w.object? i).bind fun o => (w.member? o.cls "__call__").map ((o, ·)) with
      | none => .notCallable c.name
      | some (o, m) => match w.ofMemberBy (w.callFault depth) o "__call__" m with
        | .ok found => w.callFault depth found
        | .error f => f
    | v => .notCallable v.typeName

/-- What calling a value ends in. The class of a value is declared before any class that has the
value as a member. -/
def uncallable (w : World) (v : Value) : Fault := w.callFault (w.classes.length + 1) v

/-- What an object tells for a member of its class. -/
def ofMember (w : World) (o : Instance) (name : String) (m : Member) : Except Fault Value :=
  w.ofMemberBy w.uncallable o name m

def ruleOf (w : World) (o : Instance) (name : String) : Rule :=
  match w.member? o.cls name with
  | none | some (.routine ..) => .usual
  | some (.constant .null) => .denied
  | some m =>
    if name = "__get__" then .other (.error (w.uncallable m.bare))
    else match w.ofMember o name m with
      | .ok found => .other (if name = "__call__" then .error (w.uncallable found) else .ok found)
      | .error f => .other (.error f)

def rules (w : World) : Rules := fun i name =>
  match w.object? i with
  | some o => w.ruleOf o name
  | none => .usual

def applyRule (w : World) (o : Instance) (name : String) : Except Fault Unit :=
  (w.ruleOf o name).apply w.rules

/-! ### Attributes of classes -/

/-- Whether there is a type for each field of a validated class, as the class tells. -/
def tellsTypes (w : World) (c : Nat) : Member :=
  let given := ((w.cls c).schema?.map (·.given)).getD []
  .constant (.bool (given.all fun e => e.2.toOption.isSome))

/-- Marks of a class as a number: that it was declared, may be a base, is complete and has objects
of which loops are found; and whether these have variables. -/
def classFlags (hasVariables : Bool) : Nat := if hasVariables then 0x5610 else 0x5600

/-- The attributes that every class tells of itself. -/
def ownMember? (w : World) (c : Nat) (attr : String) : Option Member :=
  let cls := w.cls c
  let classes (l : List Nat) : Member := .constant (.tuple (l.map fun a => .cls (w.ref a)))
  match attr with
  | "__name__" => some (.constant (.text cls.name))
  | "__qualname__" => some (.constant (.text cls.qualname))
  | "__class__" => some (.constant (.cls (.plain (w.maker c))))
  | "__bases__" => some (classes cls.bases)
  | "__base__" => some (.constant ((w.bestBase cls.bases).toOption.elim .null (.cls ∘ w.ref)))
  | "__mro__" => some (classes cls.ancestors)
  | "__dict__" => some .ownVariables
  | "__doc__" => some ((Assoc.get? cls.members attr).getD (.constant .null))
  | "__annotations__" => some ((Assoc.get? cls.members attr).getD (.constant (.dict [])))
  | "__text_signature__" => some (.constant .null)
  | "__basicsize__" => some (.constant (.int cls.room.size))
  | "__flags__" => some (.constant (.int (classFlags (w.hasVariables c))))
  | "__itemsize__" => some (.constant (.int 0))
  | "__weakrefoffset__" => some (.constant (.int cls.room.links))
  | "__dictoffset__" => some (.constant (.int cls.room.vars))
  | "__fields__" => if w.isValidated c then some .fieldTable else none
  | "__pydantic_fields_complete__" => if w.isValidated c then some (w.tellsTypes c) else none
  | _ => none

/-- What a class tells of a hidden field. -/
def hiddenDescription : Value := .member "ModelPrivateAttr" "ModelPrivateAttr"

/-- The hidden value that a class has for its objects, as a member. -/
def hiddenMember? (w : World) (c : Nat) (attr : String) : Option Member :=
  match (w.cls c).schema? with
  | some schema =>
    if schema.hides attr then some (.constant hiddenDescription) else none
  | none => none

/-- What a class has under a name: what it tells of itself, a member of its own or of an ancestor, a
function of classes, or a hidden value. -/
def classMember? (w : World) (c : Nat) (attr : String) : Option Member :=
  let shared := (Routine.find? (Routine.ofClasses (w.isValidated c)) attr).map fun r =>
    Member.constant (r.ofObject attr (w.maker c) (w.maker c))
  (((w.ownMember? c attr).or (w.member? c attr)).or shared).or (w.hiddenMember? c attr)

def noClassAttribute (w : World) (c : Nat) (attr : String) : Fault :=
  if w.isValidated c then .absent attr else .noClassAttribute (w.cls c).name attr

def readClass (w : World) (objects : Objects) (c : Nat) (attr : String) : Except Fault Value :=
  let ownOnly := attr = "__abstractmethods__"
  let found := if ownOnly then Assoc.get? (w.cls c).members attr else w.classMember? c attr
  match found with
  | some m => m.ofClass objects (w.ref c) (w.fieldsOf c) attr
  | none => .error (if ownOnly then .absent attr else w.noClassAttribute c attr)

/-! ### Reading -/

/-- An attribute of an object from its class and its variables. -/
def readPlain (w : World) (o : Instance) (attr : String) : Except Fault Value :=
  match w.member? o.cls attr with
  | none => (o.own? attr).elim (.error (.noAttribute (w.cls o.cls).name attr)) .ok
  | some (.constant v) => w.ownOrHeld w.uncallable o attr v
  | some m =>
    if m.isData then w.ofMember o attr m else (o.own? attr).elim (w.ofMember o attr m) .ok

/-- An item of what a slot holds, which the object must have. -/
def heldItem (w : World) (o : Instance) (attr : String) (held : Value) : Except Fault Value :=
  match held with
  | .dict es _ =>
    (Value.lookup? es attr).elim (.error (.undeclared (w.cls o.cls).name attr)) .ok
  | held => .error (.badSubscript held.typeName)

/-- How an attribute of an object is read. -/
abbrev Reader := Instance → String → Except Fault Value

/-- What the start value of a hidden field has for being read, set or deleted. -/
def startRule? (w : World) (reader : Reader) (f : Field) (rule : String) :
    Except Fault (Option Value) :=
  match f.start with
  | .value (.object i _) => match w.object? i with
    | some o => Fault.ifPresent (reader o rule)
    | none => .ok none
  | _ => .ok none

/-- A hidden value. A marker among the hidden values tells a variable. -/
def readHidden (w : World) (reader : Reader) (o : Instance) (f : Field) :
    Except Fault Value := do
  if f.startsMarked then w.markedVariable w.uncallable o f.name
  else match ← w.startRule? reader f "__get__" with
    | some rule => throw (w.uncallable rule)
    | none => w.heldItem o f.name (← reader o hiddenSlot)

def hiddenField? (w : World) (c : Nat) (name : String) : Option Field :=
  (w.cls c).schema?.bind fun schema => schema.hidden.find? fun f => f.name = name

/-- The objects of a world as values ask for them whose texts and keys are not asked for. -/
def readView (w : World) (reader : Reader) : Objects :=
  let read (i : Nat) (attr : String) : Except Fault Value :=
    (w.object? i).elim (.error (.noAttribute "" attr)) (reader · attr)
  let key (i : Nat) : Except Fault Key := .ok (.atom (.object i))
  ⟨fun _ _ => .ok "", fun _ => .ok "", key, read, w.rules, fun _ => none⟩

/-- An attribute that a validated object lacks in its class and its variables: a hidden value, if
the object tells of one, or what it holds beyond its fields. -/
def readFurther (w : World) (reader : Reader) (o : Instance) (attr : String) :
    Except Fault Value := do
  let told ← w.readPlain o toldHidden
  if ← told.contains (w.readView reader) attr then
    match told, w.hiddenField? o.cls attr with
    | .dict .., some f => w.readHidden reader o f
    | .dict .., none => w.heldItem o attr (← reader o hiddenSlot)
    | told, _ => throw (.badSubscript told.typeName)
  else
    let extra := (← Fault.ifPresent (w.readPlain o extraSlot)).getD .null
    if extra.truthy then w.heldItem o attr extra
    else if (w.classMember? o.cls attr).isSome then w.readPlain o attr
    else throw (.undeclared (w.cls o.cls).name attr)

/-- What a missing attribute of an object is by the rule of its class, if that has one. -/
def readMissing (w : World) (reader : Reader) (o : Instance) (attr : String) (f : Fault) :
    Except Fault Value :=
  match w.member? o.cls "__getattr__" with
  | none => .error f
  | some (.routine ..) => w.readFurther reader o attr
  | some _ => do
    w.applyRule o "__getattr__"
    throw f

/-- An attribute of an object, where hidden values start with objects that start with others so many
times at most. -/
def readWithin (w : World) : Nat → Reader
  | 0 => fun _ _ => .error (.tooDeep "")
  | depth + 1 => fun o attr =>
    let found := do
      w.applyRule o "__getattribute__"
      w.readPlain o attr
    match found with
    | .ok v => .ok v
    | .error f =>
      if f.kind = .attr then w.readMissing (w.readWithin depth) o attr f else .error f

/-- An attribute of an object. A hidden value starts with an object of a class that was declared
before, and is read through one that the object has itself. -/
def readInstance (w : World) (o : Instance) (attr : String) : Except Fault Value :=
  w.readWithin (2 * w.classes.length + 2) o attr

def read (w : World) (i : Nat) (attr : String) : Except Fault Value :=
  match w.object? i with
  | some o => w.readInstance o attr
  | none => .error (.noAttribute "" attr)

def attributeOf (w : World) (v : Value) (name : String) : Except Fault Value :=
  v.attrBy w.read name

/-- What calling a function of a value ends in, which has none of its name. -/
def calling {α : Type} (w : World) (v : Value) (name : String) : Except Fault α := do
  throw (w.uncallable (← w.attributeOf v name))

def entriesOf (w : World) (v : Value) : Except Fault (List (Value × Value)) :=
  match v with
  | .dict es _ => .ok es
  | v => w.calling v "items"

/-- The open variables of a validated object with their values, by which going through it begins. -/
def openItems (w : World) (o : Instance) : Except Fault (List Value) := do
  let vars ← w.entriesOf (← w.readInstance o "__dict__")
  match vars.find? fun e => e.1.text?.isNone with
  | some e => w.calling e.1 "startswith"
  | none =>
    let fields := vars.filter fun e => !isUnderscored (e.1.text?.getD "")
    return fields.map fun e => .tuple [e.1, e.2]

/-- What going through a validated object yields: its open variables and what it holds beyond its
fields, with their values. -/
def validatedItems (w : World) (o : Instance) : Except Fault (List Value) := do
  let fields ← w.openItems o
  let extra ← w.readInstance o extraSlot
  let further ← if extra.truthy then w.entriesOf extra else pure []
  return fields ++ further.map fun e => .tuple [e.1, e.2]

/-- What going through an object yields, if it can be gone through. -/
def items? (w : World) (i : Nat) : Option (Except Fault (List Value)) := do
  let o ← w.object? i
  if w.isValidated o.cls then some (w.validatedItems o) else none

end RecordSql.World
