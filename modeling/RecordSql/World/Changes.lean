import RecordSql.World.Display

/-! The attributes of objects as they are set and deleted, apart from what validated objects do.

A class can have rules of its own for that: frozen classes keep their fields. A value that a class
has under a name may look after the name itself. -/

namespace RecordSql.World

/-! ### Changes -/

/-- An object while it is changed, with the world around it and its number there, if it has one. -/
structure Edited where
  object : Instance
  world : World
  id? : Option Nat := none

/-- A change of one object; what was changed before a fault stays so. -/
abbrev Change := Action Edited Unit

def current : Action Edited Instance := return (← Action.get).object

def replace (o : Instance) : Change := Action.modify fun e => { e with object := o }

def replaceVariables (w : World) (v : Value) : Change := do
  let o ← current
  if !w.hasVariables o.cls then Action.faulty (.noPlace (w.cls o.cls).name "__dict__")
  else match v with
    | .dict vars _ => replace { o with vars }
    | v => Action.faulty (.notVariables v.typeName)

/-- Leaves a change to a value that has no function for it, or nothing at all. -/
def leaveTo (w : World) (v : Value) (rule : String) : Change :=
  match v with
  | .object i _ => match w.rules i rule with
    | .usual => Action.faulty (.absent rule)
    | found => Action.ofFault (found.apply w.rules)
  | _ => pure ()

/-- A value that looks after what its class has under a name. -/
def keeper? (w : World) : Option Member → Option Value
  | some (.constant v) => if w.isKeeper v then some v else none
  | _ => none

/-! ### Setting -/

def classSetFault : Value → Fault
  | .cls _ => .classFixed
  | v => .notClass v.typeName

def setPlain (w : World) (attr : String) (v : Value) : Change := do
  let o ← current
  let c := w.cls o.cls
  match w.member? o.cls attr with
  | some .slot => replace (o.withSlot attr v)
  | some .classLink => Action.faulty (classSetFault v)
  | some (.weakLinks owner) => Action.faulty (.notWritable attr owner)
  | some .ownVariables => w.replaceVariables v
  | member => match w.keeper? member with
    | some held => w.leaveTo held "__set__"
    | none =>
      if (member.map Member.isProperty).getD false then Action.faulty (.readOnly attr c.qualname)
      else if w.hasVariables o.cls then replace (o.withVariable attr v)
      else Action.faulty (if member.isSome then .classOnly c.name attr else .noPlace c.name attr)

/-- Exchanges what an object tells under the name of a slot. What a property tells stays as it is.
-/
def exchange (w : World) (slot : String) (held : Value) : Change := do
  match w.member? (← current).cls slot with
  | some (.property _) => return ()
  | _ => w.setPlain slot held

/-- Sets an attribute by the rules of the given classes: frozen classes keep their own objects, and
their own fields in all others. Validated objects are set in a way of their own. -/
def setBy (w : World) (validated : Schema → Change) (attr : String) (v : Value) :
    List Nat → Change
  | [] => w.setPlain attr v
  | c :: cs => do
    let o ← current
    let cls := w.cls c
    match Assoc.get? cls.members "__setattr__", cls.fields?, (w.cls o.cls).schema? with
    | none, _, _ => setBy w validated attr v cs
    | some (.routine ..), some fields, _ =>
      if c = o.cls || (fieldNames fields).contains attr then Action.faulty (.frozenSet attr)
      else setBy w validated attr v cs
    | some (.routine ..), none, some schema =>
      if c = validator then validated schema else w.setPlain attr v
    | some (.routine ..), none, none => w.setPlain attr v
    | some m, _, _ => do
      let found ← w.ofMember o "__setattr__" m
      Action.faulty (w.uncallable found)

def setLoose (w : World) (attr : String) (v : Value) : Change := do
  w.setBy (fun _ => w.setPlain attr v) attr v (w.ancestors (← current).cls)

/-! ### Deleting -/

/-- Deletes an attribute where no class has a rule of its own. -/
def deletePlain (w : World) (attr : String) : Change := do
  let o ← current
  let c := w.cls o.cls
  let isHeld := w.hasVariables o.cls
  match w.member? o.cls attr with
  | some .slot =>
    if Assoc.contains o.slots attr then replace { o with slots := Assoc.erase o.slots attr }
    else Action.faulty (.absent attr)
  | some .classLink => Action.faulty .classKept
  | some (.weakLinks owner) => Action.faulty (.notWritable attr owner)
  | some .ownVariables =>
    if isHeld then replace { o with vars := [] } else Action.faulty (.noPlace c.name attr)
  | member => match w.keeper? member with
    | some held => w.leaveTo held "__delete__"
    | none =>
      if (member.map Member.isProperty).getD false then
        Action.faulty (.undeletable attr c.qualname)
      else if (o.own? attr).isSome then replace { o with vars := Value.erase o.vars attr }
      else if member.isSome && !isHeld then Action.faulty (.classOnly c.name attr)
      else Action.faulty (.noPlace c.name attr)

/-! ### In the world -/

/-- An object that is not held yet, after a change. -/
def continued (o : Instance) (x : Change) : Action World Instance := fun w =>
  let o := x { object := o, world := w }
  ⟨o.result.map fun _ => o.state.object, o.state.world, o.log⟩

/-- A new object of a class after a change. -/
def changed (cls : Nat) (x : Change) : Action World Instance := continued { cls } x

def changing (i : Nat) (x : Change) : Action World Unit :=
  Action.within (fun w => ⟨(w.object? i).getD { cls := root }, w, some i⟩)
    (fun e _ => { e.world with objects := e.world.objects.set i e.object }) x

end RecordSql.World
