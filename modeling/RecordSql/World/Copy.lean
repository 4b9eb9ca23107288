import RecordSql.Value.References
import RecordSql.World.Changes

/-! Deep copies: a value with copies of all objects, feeds and collections that can be reached from
it. What was shared or cyclic stays so among the copies.

Objects take part in being copied by functions of their classes. A class that has something else
in the place of one of these has no objects that can be copied. -/

namespace RecordSql.World

/-! ### Functions for copying -/

def ownAttribute? (w : World) (o : Instance) (name : String) : Except Fault (Option Value) :=
  Fault.ifPresent (w.readInstance o name)

/-- Whether an object has something under the name of a function, which it must be then. -/
def helps (w : World) (o : Instance) (name : String) : Except Fault Bool := do
  match ← w.ownAttribute? o name with
  | none => return false
  | some _ =>
    w.requireHelper o name
    return true

/-- Whether an object has a function of a name, where null stands for none. -/
def offers (w : World) (o : Instance) (name : String) : Except Fault Bool := do
  match ← w.ownAttribute? o name with
  | some .null => return false
  | _ => w.helps o name

/-- An object is taken apart in the way of all objects, unless its class has something of its own
for that. -/
def checkApart (w : World) (o : Instance) : Except Fault Unit := do
  if let some found ← w.ownAttribute? o "__reduce__" then
    let _ ← w.readClass w.view o.cls "__reduce__"
    match w.member? o.cls "__reduce__" with
    | some (.routine ..) => return ()
    | _ => throw (w.uncallable found)

/-- A class may tell the arguments by which its objects are made again, but only by a function. -/
def checkArguments (w : World) (o : Instance) (rule : String) : Except Fault Unit := do
  if let some m := w.member? o.cls rule then
    throw (w.uncallable (← w.ofMember o rule m))

/-- What has to hold for an object that is taken apart and put together again. -/
def checkParts (w : World) (o : Instance) : Except Fault Unit := do
  if ← w.offers o "__reduce_ex__" then
    w.checkApart o
    w.checkArguments o "__getnewargs_ex__"
    w.checkArguments o "__getnewargs__"
  else
    if !(← w.offers o "__reduce__") then throw (.uncopyable (w.ref o.cls))
    let slots ← w.ownAttribute? o "__slots__"
    if !w.isValidated o.cls && (← (slots.getD .null).truth w.view) then throw .slotsUntold
  w.requireHelper o "__getstate__"

/-! ### Plans -/

/-- How an object is copied: the values of which it needs copies, and how a new object takes them,
given the copy of each. -/
structure CopyPlan where
  parts : List Value
  taking : (Value → Value) → Change

/-- The copy of a validated object: its variables, what it holds beyond its fields, the names of the
fields that it was given, and its hidden values. -/
def validatedPlan (w : World) (o : Instance) : Except Fault CopyPlan := do
  let vars ← w.readInstance o "__dict__"
  let extra ← w.readInstance o extraSlot
  let given ← w.readInstance o givenSlot
  let hidden := (← w.ownAttribute? o hiddenSlot).getD .null
  if !hidden.isNull then let _ ← w.entriesOf hidden
  return ⟨[vars, extra, hidden, given], fun copy => do
    w.setPlain "__dict__" (copy vars)
    w.setPlain extraSlot (copy extra)
    w.setPlain givenSlot (copy given)
    w.setPlain hiddenSlot (copy hidden)⟩

/-- The names of the slots that the objects of a class have, those of its own first, as its body can
still tell them: names that came from a feed are gone. -/
def declaredSlots (w : World) (c : Nat) : List String :=
  (w.ancestors c).flatMap fun a =>
    let cls := w.cls a
    match Assoc.get? cls.members "__slots__" with
    | some (.constant (.feed _)) | none => []
    | some _ => slotNames cls.name (cls.slots?.getD [])

/-- The names of the slots of a class, which it may list itself. -/
def slotsOf (w : World) (c : Nat) : Except Fault (List String) :=
  match Assoc.get? (w.cls c).members "__slotnames__" with
  | none => .ok (w.declaredSlots c)
  | some (.constant .null) => .ok []
  | some (.constant (.list names _)) => names.mapM fun v => match v with
    | .text name => .ok name
    | v => .error (.attributeNotText v.typeName)
  | some m => .error (.badSlotList (w.cls c).name m.bare.typeName)

/-- What an object tells under the names of its slots. There must be a name for all of its room. -/
def slotParts (w : World) (o : Instance) : Except Fault (List (String × Value)) := do
  let c := w.cls o.cls
  let slots ← w.slotsOf o.cls
  let known := World.rootClass.room.extended slots.length (c.room.links ≠ 0) false
  if c.room.size > known.size then throw (.unpicklable c.name)
  let cells ← slots.mapM fun name => do return (← w.ownAttribute? o name).map fun v => (name, v)
  return cells.filterMap id

/-- Gives a new object variables, which go into what it tells as its own. -/
def takeVariables (w : World) (vars : Value) : Change := do
  let o ← current
  match ← w.readInstance o "__dict__" with
  | .dict .. => match w.member? o.cls "__dict__" with
    | some .ownVariables => w.setPlain "__dict__" vars
    | _ => return ()
  | found => Action.ofFault (w.calling found "update")

/-- The copy of an object in the way of all objects: it takes variables, and its slots are set. -/
def plainPlan (w : World) (o : Instance) : Except Fault CopyPlan := do
  let slots ← w.slotParts o
  let vars := Value.dict o.vars
  return ⟨vars :: slots.map (·.2), fun copy => do
    if !(vars.truthy || !slots.isEmpty) then return ()
    let _ ← w.helps (← current) "__setstate__"
    if vars.truthy then w.takeVariables (copy vars)
    slots.forM fun e => w.setLoose e.1 (copy e.2)⟩

/-- How an object is copied, by the functions of its class. -/
def copyPlan (w : World) (o : Instance) : Except Fault CopyPlan := do
  if ← w.offers o "__deepcopy__" then w.validatedPlan o
  else
    w.checkParts o
    if !w.isValidated o.cls then w.plainPlan o
    else
      let plan ← w.validatedPlan o
      return { plan with taking := fun copy => do
        let _ ← w.helps (← current) "__setstate__"
        plan.taking copy }

/-! ### Copying -/

/-- What was found to be copied, in the order of discovery, and the copies of objects. -/
structure Copies where
  found : List Reference := []
  made : List (Nat × Instance) := []

def objectsAmong (l : List Reference) : List Nat :=
  l.filterMap fun r => match r with
    | .object i => some i
    | _ => none

def feedsAmong (l : List Reference) : List Nat :=
  l.filterMap fun r => match r with
    | .feed i => some i
    | _ => none

def collectionsAmong (l : List Reference) : List Nat :=
  l.filterMap fun r => match r with
    | .collection n => some n
    | _ => none

/-- The numbers of the copies of what was found, which follow all others. What is found later
changes none of them. -/
def copyNumbers (w : World) (found : List Reference) : Renaming
  | .object i => w.objects.length + (objectsAmong found).idxOf i
  | .feed i => w.feeds.length + (feedsAmong found).idxOf i
  | .collection n => w.nextSerial + (collectionsAmong found).idxOf n

/-- Finds what can be reached from a reference, and copies each object after what it refers to. On
the way to a reference no object and no feed is passed twice. -/
def find (w : World) : Nat → Reference → Action Copies Unit
  | 0, _ => return ()
  | depth + 1, r => do
    let seen ← Action.get
    if seen.found.contains r then return ()
    Action.set { seen with found := seen.found ++ [r] }
    match r with
    | .collection _ => return ()
    | .feed i => (Value.referencesOf (w.feeds.getD i [])).forM (find w depth)
    | .object i =>
      let o := (w.object? i).getD { cls := root }
      let plan ← w.copyPlan o
      (Value.referencesOf plan.parts).forM (find w depth)
      let c ← Action.get
      let copy := plan.taking (Value.renamed (w.copyNumbers c.found))
        { object := { cls := o.cls }, world := w }
      Action.ofExcept copy.result
      Action.set { c with made := c.made ++ [(i, copy.state.object)] }

/-- Whether the objects of a class are copied in the way of all objects, for which their slots have
to be known. -/
def tellsSlots (w : World) (o : Instance) : Bool :=
  !w.isValidated o.cls && !((w.offers o "__deepcopy__").toOption.getD false)

/-- Keeps the list of the slots of some classes with them, unless they have one. -/
def keepSlots (w : World) (classes : List Nat) : World :=
  let list := "__slotnames__"
  classes.foldl (fun v c =>
    let cls := v.cls c
    if Assoc.contains cls.members list then v
    else
      let names := Value.list ((w.declaredSlots c).map .text) v.nextSerial
      let members := Assoc.put cls.members list (.constant names)
      { v with classes := v.classes.set c { cls with members }, nextSerial := v.nextSerial + 1 }) w

def copied (v : Value) : Action World Value := do
  let w ← Action.get
  let depth := w.objects.length + w.feeds.length + 1
  let run := v.references.forM (w.find depth) {}
  Action.ofExcept run.result
  let found := run.state.found
  let f := w.copyNumbers found
  let objects := (objectsAmong found).map fun i => (run.state.made.lookup i).getD { cls := root }
  let feeds := (feedsAmong found).map fun i => Value.renamedAll f (w.feeds.getD i [])
  let slotted := ((objectsAmong found).filterMap w.object?).filter w.tellsSlots
  let copied := { w with
    objects := w.objects ++ objects
    feeds := w.feeds ++ feeds
    nextSerial := w.nextSerial + (collectionsAmong found).length }
  Action.set (copied.keepSlots (slotted.map (·.cls)))
  return v.renamed f

end RecordSql.World
