import RecordSql.World.Completion
import RecordSql.World.Validation

/-! The attributes of validated objects as they are set and deleted. Such objects look after what
they hold beyond their variables, and may validate what they are given. -/

namespace RecordSql.World

/-! ### Setting -/

/-- Whether an object looks after its items. -/
def keepsItems (w : World) (v : Value) : Bool :=
  (w.hook? v "__setitem__").isSome || (w.hook? v "__delitem__").isSome

/-- Puts a value under a name into what an object tells under another. -/
def putInto (w : World) (slot attr : String) (v : Value) : Change := do
  match ← w.readInstance (← current) slot with
  | .dict es n => w.exchange slot (.dict (Value.put es attr v) n)
  | .list .. => Action.faulty (.badSubscript "list")
  | held =>
    if w.keepsItems held then w.leaveTo held "__setitem__"
    else Action.faulty (.noItemAssignment held.typeName)

/-- Leaves a change of a hidden value to the value it starts with, if that has a rule for it. -/
def leaveHidden (w : World) (attr rule : String) : Action Edited Bool := do
  match w.hiddenField? (← current).cls attr with
  | none => return false
  | some f => match ← w.startRule? w.readInstance f rule with
    | some found => Action.faulty (w.uncallable found)
    | none => return false

def setHidden (w : World) (attr : String) (v : Value) : Change := do
  let _ ← w.leaveHidden attr "__set__"
  match w.readInstance (← current) hiddenSlot with
  | .ok .null => w.setPlain hiddenSlot (.dict [])
  | .ok _ => pure ()
  | .error f =>
    if f.kind = .attr then w.setPlain hiddenSlot (.dict []) else Action.faulty f
  w.putInto hiddenSlot attr v

def addGiven (w : World) (attr : String) : Change := do
  match ← w.readInstance (← current) givenSlot with
  | .set l n =>
    let given := if l.any fun v => v.text? = some attr then l else l ++ [.text attr]
    w.exchange givenSlot (.set given n)
  | v => Action.ofFault (w.calling v "add")

def setField (w : World) (attr : String) (v : Value) : Change := do
  w.putInto "__dict__" attr v
  w.addGiven attr

def toldDict (w : World) (name : String) : Action Edited (List (Value × Value)) := do
  match ← w.readInstance (← current) name with
  | .dict es _ => return es
  | v => Action.faulty (.notConverted v.typeName "PyDict")

/-- What a validated object tells that it holds beyond its fields. -/
def toldExtra (w : World) : Action Edited (List (Value × Value)) := do
  match ← w.readInstance (← current) extraSlot with
  | .null => return []
  | .dict es _ => return es
  | v => Action.faulty (.notConverted v.typeName "PyDict")

/-- Adds a field to those that an object tells it was given, if it tells any. -/
def addTold (w : World) (attr : String) : Change := do
  match w.readInstance (← current) givenSlot with
  | .ok (.set _ _) => w.addGiven attr
  | .ok v => Action.faulty (.notConverted v.typeName "PySet")
  | .error _ => return ()

/-- A value that an object may hold under a name: a valid one for a field; what is no field goes
beyond the fields, or is refused. -/
def admitted (schema : Schema) (attr : String) (v : Value) : Action Edited Value := do
  if schema.declares attr then
    let e ← Action.get
    let c := e.object.cls
    let cx := checking c schema (e.id?.map fun i => (i, c)).toList
    let type := (Assoc.get? schema.types attr).getD .any
    match ← Action.within (·.world) (fun world e => { e with world }) (cx.check type v {}) with
    | .ok found => return found.1
    | .error problems => Action.faulty (.rejected (problems.map fun p => (p.within attr).told))
  else if schema.extra = .allow then return v
  else Action.faulty (.rejected [(attr, .noSuchAttribute)])

def setValidating (w : World) (schema : Schema) (attr : String) (v : Value) : Change := do
  let cls := (← current).cls
  Action.within (·.world) (fun world e => { e with world }) (complete cls schema)
  let vars ← w.toldDict "__dict__"
  let all := (← w.toldExtra).foldl (fun m e => (m.filter fun d => !sameKey d e) ++ [e]) vars
  let all := Value.put all attr (← admitted schema attr v)
  let isField (e : Value × Value) : Bool := (e.1.text?.map schema.declares).getD false
  let fields := schema.fields.filterMap fun f =>
    (Value.lookup? all f.name).map fun v => (Value.text f.name, v)
  w.addTold attr
  if schema.extra = .allow then
    w.setPlain "__dict__" (.dict fields)
    w.setPlain extraSlot (.dict (all.filter fun e => !isField e))
  else
    w.setPlain "__dict__" (.dict all)
    w.setPlain extraSlot .null
where
  /-- Whether two entries stand under one text. -/
  sameKey (d e : Value × Value) : Bool := d.1.text?.isSome && d.1.text? = e.1.text?

/-- Reading a member off a class may end in a fault. -/
def checkMember (w : World) : Option Member → Except Fault Unit
  | some (.constant v) => (w.heldValue w.uncallable v).map fun _ => ()
  | _ => .ok ()

/-- What an object tells as its class has an attribute; classes of this world have it. -/
def checkClass (w : World) (o : Instance) (name : String) : Except Fault Unit := do
  match ← w.readInstance o "__class__" with
  | .cls _ => return ()
  | told => (w.attributeOf told name).map fun _ => ()

/-- Where classes keep the functions by which the attributes of their objects are set. -/
def setters : String := "__pydantic_setattr_handlers__"

/-- A function by which an attribute is set. -/
def setter : Value := .member "function" "<function at 0x>"

/-- A validated object is set by functions that it tells of, by name or for all names, and by what
its class says. Nothing else can stand in their place. -/
def checkSetting (w : World) (o : Instance) (attr : String) : Except Fault Unit := do
  match ← w.readInstance o setters with
  | .dict es _ => match Value.lookup? es attr with
    | none | some .null => pure ()
    | some found =>
      if found.isOne setter then return ()
      throw (w.uncallable found)
  | told => w.calling told "get"
  w.requireHelper o "_setattr_handler"
  w.checkClass o "__class_vars__"

/-- Keeps the function by which an attribute was set with the class of the object. -/
def keepSetter (attr : String) : Change :=
  Action.modify fun e =>
    let cls := e.world.cls e.object.cls
    match Assoc.get? cls.members setters with
    | some (.constant (.dict es n)) =>
      let members := Assoc.put cls.members setters (.constant (.dict (Value.put es attr setter) n))
      let classes := e.world.classes.set e.object.cls { cls with members }
      { e with world := { e.world with classes } }
    | _ => e

/-- Sets what is no field of a validated object: it goes beyond the fields if the schema allows
that, unless the class has something under its name. -/
def setBeyond (w : World) (schema : Schema) (attr : String) (v : Value) : Change := do
  let o ← current
  if schema.extra ≠ .allow then Action.faulty (.unknownField (w.cls o.cls).name attr)
  else match w.classMember? o.cls attr with
    | none | some (.constant .null) => w.putInto extraSlot attr v
    | some _ => do
      w.setPlain attr v
      keepSetter attr

def setValidated (w : World) (schema : Schema) (attr : String) (v : Value) : Change := do
  let o ← current
  w.checkSetting o attr
  if schema.classVariables.contains attr then
    Action.faulty (.classVariable attr (w.cls o.cls).name)
  else if isUnderscored attr then
    if !schema.hides attr then w.setPlain attr v
    else
      w.setHidden attr v
      keepSetter attr
  else
    w.checkMember (w.classMember? o.cls attr)
    if schema.isFrozen then Action.faulty (.rejected [(attr, .frozenInstance)])
    else if ((w.member? o.cls attr).map Member.isProperty).getD false then w.setPlain attr v
    else if schema.validatesChanges then
      w.setValidating schema attr v
      keepSetter attr
    else if schema.declares attr then
      w.setField attr v
      keepSetter attr
    else w.setBeyond schema attr v

def setInstance (w : World) (attr : String) (v : Value) : Change := do
  w.setBy (w.setValidated · attr v) attr v (w.ancestors (← current).cls)

/-! ### Deleting -/

/-- Deletes an item under a name of what an object tells under another, which must have it. -/
def eraseFrom (w : World) (slot attr : String) : Change := do
  let o ← current
  match ← w.readInstance o slot with
  | .dict es n =>
    if (Value.lookup? es attr).isSome then w.exchange slot (.dict (Value.erase es attr) n)
    else Action.faulty (.undeclared (w.cls o.cls).name attr)
  | .list .. => Action.faulty (.badSubscript "list")
  | held =>
    if w.keepsItems held then w.leaveTo held "__delitem__"
    else Action.faulty (.noItemDeletion held.typeName)

/-- Deletes what is no field of a validated object, which tells in its own way that there is none.
-/
def deleteBeyond (w : World) (attr : String) : Change := do
  let o ← current
  let isBeyond ← match w.readInstance o extraSlot with
    | .ok .null => pure false
    | .ok extra => extra.contains w.view attr
    | .error f => Action.faulty f
  if isBeyond then w.eraseFrom extraSlot attr
  else
    (w.deletePlain attr).mapError fun e => match e with
      | .fault f => .fault (if f.kind = .attr then .undeclared (w.cls o.cls).name attr else f)
      | e => e

/-- Whether an object tells of a name under another one. -/
def tells (w : World) (o : Instance) (told attr : String) : Except Fault Bool := do
  (← w.readInstance o told).contains w.view attr

def deleteValidated (w : World) (schema : Schema) (attr : String) : Change := do
  let o ← current
  if ← w.tells o toldHidden attr then
    match ← w.readInstance o toldHidden with
    | .dict .. =>
      let _ ← w.leaveHidden attr "__delete__"
      w.eraseFrom hiddenSlot attr
    | told => Action.faulty (.badSubscript told.typeName)
  else
    w.checkMember (w.classMember? o.cls attr)
    w.checkClass o "model_config"
    if schema.isFrozen then Action.faulty (.rejected [(attr, .frozenInstance)])
    else if ← w.tells o toldFields attr then w.deletePlain attr
    else w.deleteBeyond attr

def deleteBy (w : World) (attr : String) : List Nat → Change
  | [] => w.deletePlain attr
  | c :: cs => do
    let o ← current
    let cls := w.cls c
    match Assoc.get? cls.members "__delattr__", cls.fields?, (w.cls o.cls).schema? with
    | none, _, _ => deleteBy w attr cs
    | some (.routine ..), some fields, _ =>
      if c = o.cls || (fieldNames fields).contains attr then Action.faulty (.frozenDelete attr)
      else deleteBy w attr cs
    | some (.routine ..), none, some schema =>
      if c = validator then w.deleteValidated schema attr else w.deletePlain attr
    | some (.routine ..), none, none => w.deletePlain attr
    | some m, _, _ => do
      let found ← w.ofMember o "__delattr__" m
      Action.faulty (w.uncallable found)

def deleteInstance (w : World) (attr : String) : Change := do
  w.deleteBy attr (w.ancestors (← current).cls)

/-! ### In the world -/

def unchangeable (target : Value) (attr : String) : Fault :=
  if (target.ownAttribute? attr).isSome then .classOnly target.typeName attr
  else .noPlace target.typeName attr

/-- Sets an attribute of a value; only objects have attributes that can be set. -/
def setAttr (target : Value) (attr : String) (v : Value) : Action World Unit := do
  match target with
  | .object i _ => do
    let v ← kept v
    changing i ((← Action.get).setInstance attr v)
  | target => Action.faulty (unchangeable target attr)

def deleteAttr (target : Value) (attr : String) : Action World Unit := do
  match target with
  | .object i _ => do changing i ((← Action.get).deleteInstance attr)
  | target => Action.faulty (unchangeable target attr)

end RecordSql.World
