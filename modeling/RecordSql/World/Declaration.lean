import RecordSql.World.Constructor
import RecordSql.World.Schema

/-! Declarations: class bodies as classes, and the markers of a class as its table. -/

namespace RecordSql.World

/-! ### Classes -/

/-- A member whose values are to be held. -/
def keptMember : Member → Action World Member
  | .property v => Member.property <$> kept v
  | .constant v => Member.constant <$> kept v
  | m => pure m

/-- A field whose start value is to be held. -/
def keptField (f : Field) : Action World Field := do
  match f.start with
  | .value v => return ⟨f.name, .value (← kept v)⟩
  | _ => return f

/-- What a body says of the instances, with its values to be held. -/
def keptShape : Shape → Action World Shape
  | .fielded fields frozen => do return .fielded (← fields.mapM keptField) frozen
  | .validated fields extra => do return .validated (← fields.mapM keptField) extra
  | shape => pure shape

/-- A drafted class by what its body says of the instances. -/
def drafted (name qualname : String) (shape : Shape) (bases : List Nat)
    (body : List (String × Member)) : Action World RecordClass := do
  match shape with
  | .fielded fields frozen => do
    let members := united (body ++ startMembers fields ++ [fieldTypes fields])
    let c ← draft name qualname shape bases members (checkFieldNaming name fields)
    (← Action.get).withConstructor c fields frozen
  | .validated fields extra => do
    draftValidated name qualname shape bases (united (← validatedBody fields extra))
  | shape =>
    let body := united body
    if bases.any (← Action.get).isValidated then draftValidated name qualname shape bases body
    else draft name qualname shape bases body fun w => w.checkNaming name body

/-- What a body with a constructor must keep to before there is a class. -/
def checkShape : Shape → Except Fault Unit
  | .fielded fields _ => checkNames [] (fieldNames fields)
  | _ => .ok ()

/-- Declares a class; it is not bound to a name yet. -/
def declare (name qualname : String) (shape : Shape) (bases : List Nat)
    (body : List (String × Member)) : Action World Nat := do
  checkShape shape
  let shape ← keptShape shape
  let body ← body.mapM fun e => do return (e.1, ← keptMember e.2)
  let c ← drafted name qualname shape (basesOf shape bases) body
  let w ← Action.get
  Action.set (w.withClass c)
  return w.classes.length

/-! ### Tables -/

def markersOf (members : Assoc String Member) : List (String × Member) :=
  members.filter fun e => e.2.isMarker

/-- The markers of a class and its ancestors, those of the most remote ancestor first. An attribute
keeps the place of its first marker and has the marker of the most derived class. -/
def markers (w : World) (c : Nat) : Assoc String Member :=
  ((w.ancestors c).reverse.flatMap fun a => markersOf (w.cls a).members).foldl
    (fun found e => Assoc.put found e.1 e.2) []

def registerMarker (objects : Objects) (entity : Value) (attr : String) :
    Member → Action Registry Unit
  | .column m => Registry.registerColumn objects entity (m.given attr)
  | .relation m => Registry.registerRelation objects entity (m.given attr)
  | _ => pure ()

/-- Registers the markers of a class, one after the other, and then its table. -/
def registerMarkers (objects : Objects) (entity name : Value) (found : List (String × Member)) :
    Action Registry Unit := do
  found.forM fun e => registerMarker objects entity e.1 e.2
  Registry.registerTable objects entity name

/-- Declares the table of a class in a registry, which becomes the registry of the class. -/
def declareTable (c : Nat) (name : Value) (r : Nat) : Action World Unit := do
  let w ← Action.get
  withRegistry r (registerMarkers w.view (.cls (w.ref c)) name (w.markers c))
  let cls := w.cls c
  let members := Assoc.put cls.members registryAttribute (.registry r)
  Action.modify fun w => { w with classes := w.classes.set c { cls with members } }

end RecordSql.World
