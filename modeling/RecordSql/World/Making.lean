import RecordSql.World.Copy

/-! The making of objects: what a class has to allow for that, the start values of fields, and what
becomes of validated values. -/

namespace RecordSql.World

/-! ### New objects -/

/-- The functions that a class leaves open, of which it has no objects then. -/
def leftOpen (w : World) (cls : Nat) : Except Fault (List String) := do
  let c := w.cls cls
  match Assoc.get? c.members "__abstractmethods__" with
  | some (.constant (.fixedSet names _)) =>
    if w.isValidated cls || c.fields?.isSome then
      return (← Value.sorted w.view names).filterMap Value.text?
    else return []
  | _ => return []

/-- Whether something was in the place of the function that makes the objects of a class, and was
taken away. -/
def losesMaking (w : World) (cls : Nat) : Bool :=
  (w.ancestors cls).any fun a =>
    ((w.cls a).fields?.getD []).any fun f => f.name = "__new__" && f.isMade

/-- A class makes objects, of arguments if some are given, unless something else stands in the place
of the function for that or it leaves other functions open. -/
def checkMaking (w : World) (cls : Nat) (isGiven : Bool) : Except Fault Unit := do
  let isUsual := match w.member? cls "__new__" with
    | none | some (.routine ..) => true
    | _ => false
  if !isUsual then throw (w.uncallable (← w.readClass w.view cls "__new__"))
  if isGiven && w.losesMaking cls then throw .soleArgument
  match ← w.leftOpen cls with
  | [] => return ()
  | names => throw (.leftOpen (w.cls cls).name names)

/-- The object with a serial number for every collection that it holds. -/
def keptInstance (o : Instance) : Action World Instance := do
  let vars ← o.vars.mapM fun e => do return (← kept e.1, ← kept e.2)
  let slots ← o.slots.mapM fun e => do return (e.1, ← kept e.2)
  return { o with vars, slots }

/-- The reference to a new object. -/
def added (o : Instance) : Action World Value := do
  let i ← addObject (← keptInstance o)
  return .object i ((← Action.get).ref o.cls)

/-! ### Start values -/

/-- What is asked of an object before it is copied by trusted construction: its class, in order to
find it among those whose values need no copy, and whether it counts as true. -/
def checkTrusted (w : World) (v : Value) : Except Fault Unit :=
  match v with
  | .object .. => do
    let _ ← (← w.attributeOf v "__class__").key w.view
    match v.truth w.view with
    | .ok _ => return ()
    | .error f => if f.kind = .attr then throw f
  | _ => .ok ()

/-- A field with its start value for a new object, if it has one. A value that cannot be a key is
copied, since other objects could change it; trusted construction copies every value. -/
def started (trusted : Bool) (f : Field) : Action World (Option (String × Value)) := do
  let w ← Action.get
  match f.start with
  | .value v =>
    if trusted then w.checkTrusted v
    if trusted || !(v.key w.view).isOk then return some (f.name, ← copied v)
    else return some (f.name, v)
  | _ => return f.start?.map fun v => (f.name, v)

def filled (trusted : Bool) (fields : List Field) (given : List (String × Value)) :
    Action World (List (String × Value)) := do
  let cells ← fields.mapM fun f => match given.lookup f.name with
    | some v => pure (some (f.name, v))
    | none => started trusted f
  return cells.filterMap id

/-! ### Validated objects -/

def beyond (fields : List Field) (given : List (String × Value)) : List (String × Value) :=
  given.filter fun e => !(fieldNames fields).contains e.1

def givenNames (fields : List Field) (given : List (String × Value)) : List String :=
  (fieldNames fields).filter fun name => (given.lookup name).isSome

def dictOf (m : List (String × Value)) : Value := .dict (Value.entries m)

/-- A class can have a function that looks at its new validated objects, and nothing else in its
place. -/
def checkFinished (w : World) (o : Instance) : Except Fault Unit := w.applyRule o "model_post_init"

/-- The hidden values of a new object: those that the fields start with, under those of other values
that are told for hidden fields. -/
def hiddenValues (schema : Schema) (told : List (String × Value)) : Action World Value := do
  let hidden ← filled true schema.hidden []
  let shown := told.filter fun e => schema.hides e.1
  return .dict (shown.foldl (fun m e => Value.put m e.1 e.2) (Value.entries hidden))

/-- A validated object that holds some values. What the class has in the place of a slot does not
take the values of the slot. -/
def finished (cls : Nat) (schema : Schema) (held : List (String × Value))
    (told : List (String × Value)) : Action World Instance := do
  let w ← Action.get
  let o ← changed cls (held.forM fun e => w.setPlain e.1 e.2)
  w.checkFinished o
  if schema.hidden.isEmpty then return o
  let hidden ← hiddenValues schema told
  continued o (w.setPlain hiddenSlot hidden)

end RecordSql.World
