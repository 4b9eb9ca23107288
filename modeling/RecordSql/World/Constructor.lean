import RecordSql.World.Draft
import RecordSql.World.Signature

/-! Classes with a constructor for their fields.

A body describes every field that starts with something. The class then has start values in the
place of the descriptions, and a field may start with what the class tells under its name anyway. -/

namespace RecordSql.World

/-! ### Start values -/

/-- What describes a field tells the start value its name, if the class of the value has something
for that which counts as true. It is no function. -/
def checkFieldNaming (cls : String) : List Field → World → Except Fault Unit
  | [], _ => .ok ()
  | f :: fields, w => do
    match f.start with
    | .value (.object _ (.declared c ..)) =>
      let ends := Fault.namingFailed "Field" f.name cls
      match w.readClass w.view c "__set_name__" with
      | .error e => if e.kind ≠ .attr then throw ends
      | .ok rule => match rule.truth w.view with
        | .ok false => pure ()
        | _ => throw ends
    | _ => pure ()
    checkFieldNaming cls fields w

/-- What a class tells under the name of a field: what describes the field, or what the field starts
with then. A slot is nothing to start with. -/
def tellsField (w : World) (c : Nat) (f : Field) : Except Fault (Bool × Field) := do
  match ← w.classAttribute? c f.name with
  | none | some (.member "member_descriptor" _) => return (false, ⟨f.name, .required⟩)
  | some (.member "Field" _) => return (true, f)
  | some v => return (false, ⟨f.name, .value v⟩)

def keyRule (w : World) (v : Value) : Except Fault Value := do
  match ← w.attributeOf v "__class__" with
  | .cls (.declared c ..) => w.readClass w.view c "__hash__"
  | .cls (.plain type) =>
    return if ["list", "set", "dict", "mappingproxy"].contains type then .null else .bool true
  | found => w.attributeOf found "__hash__"

/-- A start value that cannot be a key is refused, since all objects would share it. -/
def checkStart (w : World) (f : Field) : Except Fault Unit := do
  match f.start with
  | .value v => if (← w.keyRule v).isNull then throw (.mutableDefault v.classOf f.name)
  | _ => return ()

/-- The fields of a class as it tells them, with the names of those that are described. -/
def fieldsTold (w : World) (c : Nat) : List Field → Except Fault (List (Bool × Field))
  | [] => .ok []
  | f :: fields => do
    let told ← w.tellsField c f
    w.checkStart told.2
    return told :: (← fieldsTold w c fields)

/-- The members of a class with start values in the place of descriptions; how start values are made
is no member. -/
def settledMembers (w : World) (cls : String) (members : Assoc String Member) :
    List (Bool × Field) → Except Fault (Assoc String Member)
  | [] => .ok members
  | (false, _) :: fields => settledMembers w cls members fields
  | (true, f) :: fields => do
    match f.start with
    | .value v =>
      if f.name = "__abstractmethods__" then let _ ← v.truth w.view
      settledMembers w cls (Assoc.put members f.name (.constant v)) fields
    | _ =>
      checkLeaving cls f.name
      settledMembers w cls (Assoc.erase members f.name) fields

/-! ### Classes -/

/-- What a class under a number says of itself, if its body says nothing that counts: how its
constructor takes its fields. -/
def fieldedDescription (w : World) (c : Nat) (fields : List Field) :
    Except Fault (List (String × Member)) := do
  if ← (← w.readClass w.view c "__doc__").truth w.view then return []
  w.checkSignature c
  return [("__doc__", .constant (.text ((w.cls c).name ++ (← fieldsText w.view fields))))]

def withConstructor (w : World) (c : RecordClass) (fields : List Field) (frozen : Bool) :
    Except Fault RecordClass := do
  let id := w.classes.length
  let settings := constructorSettings frozen
  let c := { c with members := Assoc.put c.members settings.1 settings.2 }
  let told ← (w.withClass c).fieldsTold id fields
  let own ← w.settledMembers c.name c.members told
  let fields := told.map (·.2)
  let c := { c with
    shape := .fielded fields frozen
    label := labelOf own c.name c.qualname
    members := own }
  let settled := w.withClass c
  let _ ← settled.classAttribute? id "__post_init__"
  checkOrder fields
  checkParameters fields
  checkRules c.name own frozen
  let description ← settled.fieldedDescription id fields
  let members := united (own ++ fieldedMembers c.qualname own fields frozen ++ description)
  if !Assoc.contains members "__abstractmethods__" then return { c with members }
  let leftOpen ← w.openMembers members
  return { c with members := united (members ++ [openSetting leftOpen]) }

end RecordSql.World
