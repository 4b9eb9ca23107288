import RecordSql.Record.Instance
import RecordSql.Value.References
import RecordSql.Where

/-! A world: the registries, classes, objects and feeds that values and classes refer to, and the
names that classes are bound to. -/

namespace RecordSql

/-- The registry and the classes with the least numbers are there from the start: the registry is
the one of all classes that name none. Collections that an object holds have serial numbers below
the next one. -/
structure World where
  registries : List Registry
  classes : List RecordClass
  objects : List Instance
  feeds : Feeds
  names : Assoc String ClassRef
  nextSerial : Nat

namespace World

/-! ### Parts -/

/-- The class that all classes are derived from. -/
def root : Nat := 0

/-- The class that gives those derived from it the helpers of an entity. -/
def helpers : Nat := 1

/-- The class that all validated classes are derived from. -/
def validator : Nat := 2

def routineMembers (owner : String) (table : List (Routine × List String)) :
    Assoc String Member :=
  table.flatMap fun e => e.2.map fun name => (name, .routine e.1 owner)

def rootClass : RecordClass where
  name := "object"
  qualname := "object"
  label := "object"
  shape := .slotted []
  slots? := some []
  members := routineMembers "object" Routine.universal ++
    [("__module__", .constant (.text "builtins")), ("__class__", .classLink),
      ("__dict__", .ownVariables)]
  bases := []
  ancestors := [root]
  layout := root
  room := ⟨16, 0, 0⟩
  schema? := none

def helpersClass : RecordClass where
  name := "BaseEntity"
  qualname := "BaseEntity"
  label := "entity_sql.declarative.BaseEntity"
  shape := .loose
  slots? := none
  members := routineMembers "BaseEntity"
      [(.classMethod, ["to_model", "to_models"]), (.method, ["to_plain", "clone", "__repr__"])] ++
    [("__module__", .constant (.text "entity_sql.declarative")),
      ("__doc__", .constant (.text "Optional base class with mapping and copy helpers.")),
      ("__weakref__", .weakLinks "BaseEntity")]
  bases := [root]
  ancestors := [helpers, root]
  layout := root
  room := rootClass.room.extended 0 true true
  schema? := none

/-- The functions of validated classes. -/
def validatorRoutines : List (Routine × List String) :=
  [(.method, ["__init__", "__getattr__", "__setattr__", "__delattr__", "__eq__", "__iter__",
      "__repr__", "__str__", "__copy__", "__deepcopy__", "__getstate__", "__setstate__",
      "__replace__", "__repr_args__", "__repr_name__", "__repr_recursion__", "__repr_str__",
      "__pretty__", "__rich_repr__", "model_copy", "model_dump", "model_dump_json",
      "model_post_init", "copy", "dict", "json", "_setattr_handler", "_iter",
      "_copy_and_set_values", "_calculate_keys"]),
    (.classMethod, ["model_construct", "model_json_schema", "model_parametrized_name",
      "model_rebuild", "model_validate", "model_validate_json", "model_validate_strings",
      "__class_getitem__", "__get_pydantic_core_schema__", "__get_pydantic_json_schema__",
      "__pydantic_init_subclass__", "construct", "from_orm", "parse_file", "parse_obj",
      "parse_raw", "schema", "schema_json", "update_forward_refs", "validate", "_get_value"])]

/-- The functions of validated classes that a field may stand in the place of. -/
def replaceableRoutines : List String :=
  ["copy", "dict", "json", "_iter", "_copy_and_set_values", "_calculate_keys", "construct",
    "from_orm", "parse_file", "parse_obj", "parse_raw", "schema", "schema_json",
    "update_forward_refs", "validate", "_get_value"]

def validatorClass : RecordClass where
  name := "BaseModel"
  qualname := "BaseModel"
  label := "pydantic.main.BaseModel"
  shape := .loose
  slots? := some ["__dict__", givenSlot, extraSlot, hiddenSlot]
  members := routineMembers "BaseModel" validatorRoutines ++
    [("__module__", .constant (.text "pydantic.main")),
      ("__slots__", .constant (.tuple
        (["__dict__", givenSlot, extraSlot, hiddenSlot].map .text))),
      ("__hash__", .constant .null),
      (givenSlot, .slot), (extraSlot, .slot), (hiddenSlot, .slot),
      ("model_fields_set", .fieldsGiven), ("__fields_set__", .fieldsGiven),
      ("model_extra", .extraGiven), ("__fields__", .fieldsDeclared),
      ("model_fields", .fieldTable), (toldFields, .fieldTable),
      ("model_computed_fields", .constant (.dict [])),
      ("__pydantic_computed_fields__", .constant (.dict [])),
      ("__pydantic_decorators__", .constant (.member "DecoratorInfos" "DecoratorInfos()")),
      ("__pydantic_complete__", .constant (.bool true)),
      ("__pydantic_parent_namespace__", .constant .null),
      ("_abc_impl", .constant (.member "_abc_data" "_abc_data")),
      ("__pydantic_custom_init__", .constant (.bool false)),
      ("__pydantic_generic_metadata__", .constant (.dict (Value.entries
        [("origin", .null), ("args", .tuple []), ("parameters", .tuple [])]))),
      ("__pydantic_root_model__", .constant (.bool false)),
      ("__class_vars__", .constant (.set [])), ("model_config", .constant (.dict []))]
  bases := [root]
  ancestors := [validator, root]
  layout := validator
  room := rootClass.room.extended 3 false true
  schema? := none

def initial : World := ⟨[∅], [rootClass, helpersClass, validatorClass], [], [], [], 1⟩

def registry (w : World) (r : Nat) : Registry := w.registries.getD r ∅

def cls (w : World) (c : Nat) : RecordClass := w.classes.getD c rootClass

/-- A class and its ancestors, from the most derived one on. -/
def ancestors (w : World) (c : Nat) : List Nat := (w.cls c).ancestors

def isValidated (w : World) (c : Nat) : Bool := (w.ancestors c).contains validator

/-- The name of the class that a class is an object of. -/
def maker (w : World) (c : Nat) : String := if w.isValidated c then "ModelMetaclass" else "type"

def ref (w : World) (c : Nat) : ClassRef := (w.cls c).ref c (w.maker c)

def object? (w : World) (i : Nat) : Option Instance := w.objects[i]?

def scope (w : World) : Scope := fun name => (Assoc.get? w.names name).map .cls

/-! ### Changes -/

def withRegistry {α : Type} (r : Nat) (x : Action Registry α) : Action World α :=
  Action.within (·.registry r) (fun reg w => { w with registries := w.registries.set r reg }) x

def drawing {α : Type} (x : Action Feeds α) : Action World α :=
  Action.within (·.feeds) (fun feeds w => { w with feeds }) x

def addRegistry : Action World Nat := do
  let w ← Action.get
  Action.set { w with registries := w.registries ++ [∅] }
  return w.registries.length

def addFeed (items : List Value) : Action World Value := do
  let w ← Action.get
  Action.set { w with feeds := w.feeds ++ [items] }
  return .feed w.feeds.length

def addObject (o : Instance) : Action World Nat := do
  let w ← Action.get
  Action.set { w with objects := w.objects ++ [o] }
  return w.objects.length

/-- A value that is to be held: every collection in it has a serial number. -/
def kept (v : Value) : Action World Value := do
  let w ← Action.get
  let (v, next) := v.numbered w.nextSerial
  Action.set { w with nextSerial := next }
  return v

def bindName (name : String) (c : Nat) : Action World Unit :=
  Action.modify fun w => { w with names := Assoc.put w.names name (w.ref c) }

/-! ### Classes -/

/-- The member that an attribute of a class is: that of the most derived class with one. -/
def member? (w : World) (c : Nat) (attr : String) : Option Member :=
  (w.ancestors c).findSome? fun a => Assoc.get? (w.cls a).members attr

/-- Whether the instances of a class have variables. -/
def hasVariables (w : World) (c : Nat) : Bool :=
  (w.ancestors c).any fun a => (w.cls a).addsVariables

/-- Whether the instances of a class can be linked to without being kept. -/
def hasLinks (w : World) (c : Nat) : Bool := (w.ancestors c).any fun a => (w.cls a).addsLinks

/-- Whether a class takes arguments by name for fields of its own or of an ancestor. -/
def takesFields (w : World) (c : Nat) : Bool :=
  w.isValidated c || (w.member? c "__dataclass_fields__").isSome

/-- The nearest ancestor with a member of its own under a name, and that member. -/
def owner? (w : World) (c : Nat) (attr : String) : Option (Nat × Member) :=
  (w.ancestors c).findSome? fun a => (Assoc.get? (w.cls a).members attr).map fun m => (a, m)

/-- Of two bases the one that lays out the objects of a class over both. -/
def laterBase (w : World) (a b : Nat) : Except Fault Nat :=
  let order (c : Nat) : List Nat := w.ancestors (w.cls c).layout
  if (order a).contains (w.cls b).layout then .ok a
  else if (order b).contains (w.cls a).layout then .ok b
  else .error .layoutConflict

/-- The base that lays out the objects of a class: no two bases may do so in ways of which neither
extends the other. -/
def bestBase (w : World) : List Nat → Except Fault Nat
  | [] => .ok root
  | b :: bases => bases.foldlM w.laterBase b

/-- The names of the validated fields of a class. -/
def fieldsOf (w : World) (c : Nat) : List String :=
  ((w.cls c).schema?.map fun schema => fieldNames schema.fields).getD []

/-! ### Registries of classes -/

/-- The attribute of a class that the registry of its table is kept in. -/
def registryAttribute : String := "__entity_registry__"

/-- The registry that a class finds in itself or an ancestor; a value that a body puts in its place
is none. A registry without tables does not count, nor do values that count as false, and the first
registry stands in for them. -/
def registryOf (w : World) (objects : Objects) (c : Nat) : Except Fault (Nat ⊕ Value) :=
  match w.member? c registryAttribute with
  | none => .ok (.inl 0)
  | some (.registry r) => .ok (.inl (if (w.registry r).size = 0 then 0 else r))
  | some m => do
    let v ← m.ofClass objects (w.ref c) (w.fieldsOf c) registryAttribute
    return if ← v.truth objects then .inr v else .inl 0

def usableRegistry (w : World) (objects : Objects) (c : Nat) (function : String) :
    Except Fault Nat := do
  match ← w.registryOf objects c with
  | .inl r => return r
  | .inr v => v.called objects function

/-- The table of a class in a registry. -/
def tableIn? (w : World) (objects : Objects) (c r : Nat) : Option Table :=
  (w.registry r).tableAt? objects (.atom (.cls (w.ref c)))

end World

end RecordSql
