import RecordSql.Record.FieldType
import RecordSql.Registry

/-! Record classes: what their instances can hold, and what a class body declares. -/

namespace RecordSql

inductive FieldStart where
  | required
  | value (v : Value)
  | emptyList
  | emptyDict

structure Field where
  name : String
  start : FieldStart

/-- What a class body says of the instances: nothing; the slots that they have; the fields of their
constructor, which may be set only once when they are frozen; or the fields that are validated. -/
inductive Shape where
  | loose
  | slotted (slots : List String)
  | fielded (fields : List Field) (frozen : Bool)
  | validated (fields : List Field) (extra : String)

inductive ExtraFields where
  | ignore
  | allow
  | forbid
  deriving DecidableEq

/-- The validated fields of a class and its ancestors, and the settings of their validation. Hidden
fields are not given to a constructor and not told among the others. The type of a field is given by
a value, unless there is a name in it that nothing is bound to; where it says nothing of the values,
it is left out among the types. The fault is what keeps objects from being validated, and validation
may be put off until the first of them is. -/
structure Schema where
  fields : List Field
  hidden : List Field
  settings : List (Value × Value)
  classVariables : List String := []
  given : Assoc String (Except String TypeValue) := []
  types : Assoc String FieldType := []
  fault? : Option Fault := none
  isPutOff : Bool := false

structure RelationMarker where
  kind : RelationKind
  selfReference : Value
  targetTable : Value
  targetColumn : Value
  target : TargetGiven

structure ColumnMarker where
  name : Value
  transformer : Option Transformer
  excludeFromInsert : Value
  excludeFromUpdate : Value

/-- What an attribute of a class is: a marker, a read-only property or a value; a slot, or a
function that was first had by an owner; the registry of its table; one of the attributes that every
object has; or, of validated classes, a property that tells what an object was given, what it holds
beyond its fields or which fields there are, the table of the fields itself, and the signature of
the constructor, which objects do not tell. -/
inductive Member where
  | column (m : ColumnMarker)
  | relation (m : RelationMarker)
  | property (v : Value)
  | constant (v : Value)
  | slot
  | routine (r : Routine) (owner : String)
  | registry (id : Nat)
  | classLink
  | ownVariables
  | weakLinks (owner : String)
  | fieldsGiven
  | extraGiven
  | fieldsDeclared
  | fieldTable
  | signature

/-- The room that an object of a class takes: its bytes, and where among them the links to it and
its variables are; zero stands for none of these. -/
structure Room where
  size : Nat
  links : Nat := 0
  vars : Int := 0

/-- The room of an object with some slots more, and with links and variables if they are added.
Variables lie before the object, and are found from behind its end. -/
def Room.extended (r : Room) (slots : Nat) (addsLinks addsVariables : Bool) : Room :=
  let slotted := r.size + 8 * slots
  let size := if addsLinks then slotted + 8 else slotted
  ⟨size, if addsLinks then slotted else r.links,
    if addsVariables then -(size + 24 : Int) else r.vars⟩

/-- A class: its names and the label that messages show; the slots it declares, if it does; its own
members in the order of its body; its bases, and itself and its ancestors from the most derived on;
the ancestor that lays out its objects, and the room that they take; and what it validates. -/
structure RecordClass where
  name : String
  qualname : String
  label : String
  shape : Shape
  slots? : Option (List String)
  members : Assoc String Member
  bases : List Nat
  ancestors : List Nat
  layout : Nat
  room : Room
  schema? : Option Schema

namespace ColumnMarker

def given (m : ColumnMarker) (key : String) : ColumnGiven :=
  ⟨.text key, m.name, m.transformer, m.excludeFromInsert, m.excludeFromUpdate⟩

end ColumnMarker

namespace RelationMarker

def given (m : RelationMarker) (key : String) : RelationGiven :=
  ⟨.text m.kind.label, .text key, m.selfReference, m.targetTable, m.targetColumn, m.target⟩

end RelationMarker

namespace Member

def isMarker : Member → Bool
  | column _ | relation _ => true
  | _ => false

def isProperty : Member → Bool
  | property _ | fieldsGiven | extraGiven | fieldsDeclared => true
  | _ => false

/-- Whether an object has the attribute from its class, whatever its own variables are. -/
def isData : Member → Bool
  | property _ | slot | classLink | ownVariables | weakLinks _ | fieldsGiven | extraGiven
  | fieldsDeclared => true
  | _ => false

def markerText? (objects : Objects) : Member → Option (Except Fault String)
  | column m => some do return "Column(" ++ (← m.name.shown objects) ++ ")"
  | relation m => some do
    return "Relation(" ++ m.kind.label ++ ", " ++ (← m.targetTable.shown objects) ++ ")"
  | _ => none

def registryObject : Value := .member "MetadataRegistry" "<MetadataRegistry object at 0x>"

def fieldDescriptions (fields : List String) : Value :=
  .dict (Value.entries (fields.map fun f => (f, .member "FieldInfo" "FieldInfo")))

/-- What a class has for a member of its own or of an ancestor. -/
def ofBody (objects : Objects) (c : ClassRef) (fields : List String) (name : String)
    (m : Member) : Except Fault Value :=
  match m with
  | column _ => marked "Column"
  | relation _ => marked "Relation"
  | constant v => .ok v
  | slot => .ok (.member "member_descriptor" ("<member '" ++ name ++ "' objects>"))
  | routine r owner => .ok (r.ofClass owner name c)
  | registry _ => .ok registryObject
  | classLink => .ok (.cls (.plain "type"))
  | ownVariables => .ok (.member "mappingproxy" "mappingproxy")
  | weakLinks _ => .ok (.member "getset_descriptor" "<attribute '__weakref__' objects>")
  | fieldTable => .ok (fieldDescriptions fields)
  | signature => .ok (.member "Signature" "Signature")
  | property _ | fieldsGiven | extraGiven | fieldsDeclared =>
    .ok (.member "property" "<property object at 0x>")
where
  /-- A marker as a value. -/
  marked (type : String) : Except Fault Value :=
    match m.markerText? objects with
    | some t => t.map (.member type)
    | none => .ok .null

/-- What a class tells for a member of its own or of an ancestor. A value may have a rule for being
read off a class. -/
def ofClass (objects : Objects) (c : ClassRef) (fields : List String) (name : String)
    (m : Member) : Except Fault Value := do
  match ← m.ofBody objects c fields name with
  | .object i own => do
    Value.apply objects i "__get__"
    return .object i own
  | v => return v

/-- What a member is where only its type counts. -/
def bare : Member → Value
  | constant v => v
  | column _ => .member "Column" ""
  | relation _ => .member "Relation" ""
  | slot => .member "member_descriptor" ""
  | property _ | fieldsGiven | extraGiven | fieldsDeclared => .member "property" ""
  | registry _ => registryObject
  | classLink => .cls (.plain "type")
  | ownVariables => .member "mappingproxy" ""
  | weakLinks _ => .member "getset_descriptor" ""
  | fieldTable => .dict []
  | signature => .member "Signature" ""
  | routine r _ => .member r.typeOnClass ""

end Member

namespace Field

def start? (f : Field) : Option Value :=
  match f.start with
  | .required => none
  | .value v => some v
  | .emptyList => some (.list [])
  | .emptyDict => some (.dict [])

def isRequired (f : Field) : Bool := f.start?.isNone

/-- Whether the start value is made anew for every object. -/
def isMade (f : Field) : Bool :=
  match f.start with
  | .emptyList | .emptyDict => true
  | _ => false

/-- Whether a field starts with a marker, which tells a variable in its own place. -/
def startsMarked (f : Field) : Bool :=
  match f.start with
  | .value (.member type _) => type = "Column" || type = "Relation"
  | _ => false

end Field

def fieldNames (fields : List Field) : List String := fields.map (·.name)

namespace Schema

def setting? (s : Schema) (name : String) : Option Value := Value.lookup? s.settings name

def extra (s : Schema) : ExtraFields :=
  match s.setting? "extra" with
  | some (.text "allow") => .allow
  | some (.text "forbid") => .forbid
  | _ => .ignore

/-- Whether the objects cannot be changed. -/
def isFrozen (s : Schema) : Bool := ((s.setting? "frozen").map Value.truthy).getD false

/-- Whether a value that is set is validated like those of a constructor. -/
def validatesChanges (s : Schema) : Bool :=
  ((s.setting? "validate_assignment").map Value.truthy).getD false

def declares (s : Schema) (name : String) : Bool := (fieldNames s.fields).contains name

def hides (s : Schema) (name : String) : Bool := (fieldNames s.hidden).contains name

end Schema

namespace RecordClass

/-- The reference to a class, by its number and the name of its own class. -/
def ref (c : RecordClass) (id : Nat) (maker : String) : ClassRef :=
  .declared id c.name c.qualname c.label maker

def fields? (c : RecordClass) : Option (List Field) :=
  match c.shape with
  | .fielded fields _ => some fields
  | _ => none

/-- Whether the class adds variables to its instances; slots take their place. -/
def addsVariables (c : RecordClass) : Bool :=
  match c.slots? with
  | none => true
  | some slots => slots.contains "__dict__"

/-- Whether the class adds links by which its instances can be found without being kept. -/
def addsLinks (c : RecordClass) : Bool :=
  match c.slots? with
  | none => true
  | some slots => slots.contains "__weakref__"

end RecordClass

end RecordSql
