import RecordSql.Record.TypeExpression
import RecordSql.World.Completion
import RecordSql.World.Draft
import RecordSql.World.Settings

/-! Validated classes: their fields, and what their objects are validated by.

A body gives the types of fields, and values under some of the names. Values under names that begin
with an underscore are hidden from constructors. The class is drafted from what is left; then its
fields are found, with those of its bases, and at last what their types and the settings ask of
their values. -/

namespace RecordSql.World

/-- What a class body says of validated objects: the members that are left, the hidden fields and
the settings. -/
structure Reading where
  members : Assoc String Member
  hidden : List Field
  settings : List (Value × Value)

def schemas (w : World) (classes : List Nat) : List Schema :=
  classes.filterMap fun c => (w.cls c).schema?

/-! ### Bodies -/

/-- Whether a value is made of tuples alone. -/
def isHollow : List Value → Bool
  | [] => true
  | .tuple l _ :: rest => l.isEmpty && isHollow rest
  | _ => false

/-- The types that settings exempt from being fields are added to others. -/
def checkExempt (w : World) : Value → Except Fault Unit
  | .tuple .. => .ok ()
  | .object i c => do
    Value.apply w.view i "__add__"
    throw (.notAddable c.name)
  | v => .error (.notAddable v.typeName)

/-- The module that the class of a value tells. -/
def homeOf (w : World) (v : Value) : Except Fault Value := do
  match ← w.attributeOf v "__class__" with
  | .cls (.declared c ..) => w.readClass w.view c "__module__"
  | .cls (.plain _) => return .text "builtins"
  | found => w.attributeOf found "__module__"

/-- Whether a value of a body is no field for its class: a property or a partial function. -/
def isExempt (w : World) (m : Member) (v : Value) : Except Fault Bool := do
  if m.isProperty then return true
  v.checkKind w.view
  let home ← w.homeOf v
  home.checkEquality w.view
  return home.text? = some "functools"

/-- Whether the type that a body gives under a name says that the name is no field. -/
def isOutside (types : List (Value × Value)) (name : String) : Bool :=
  (((Value.lookup? types name).bind Value.text?).map TypeValue.isClassVariable).getD false

/-- What a body gives under its names: hidden fields, members that are left, and names that are no
fields for the classes of their values. -/
structure Sorted where
  hidden : List Field := []
  kept : List (String × Member) := []
  exempt : List String := []

/-- Sorts what a body gives. A value under a name that a type is given for, or that is kept for
classes, is a member. -/
def sortBody (w : World) (bases : List Schema) (types : List (Value × Value)) :
    List (String × Member) → Except Fault Sorted
  | [] => .ok {}
  | (name, m) :: body => do
    let keep : Except Fault Sorted := do
      let rest ← sortBody w bases types body
      return { rest with kept := (name, m) :: rest.kept }
    if name = "model_config" then keep
    else
      let v ← m.ofBody w.view default [] name
      if ← w.isExempt m v then
        let rest ← sortBody w bases types body
        return { rest with kept := (name, m) :: rest.kept, exempt := name :: rest.exempt }
      else if isUnderscored name && v.typeName = "FieldInfo" then throw (.hiddenField name)
      else if isReserved name then keep
      else if isHidden name then
        let rest ← sortBody w bases types body
        if isOutside types name then return { rest with kept := (name, m) :: rest.kept }
        else return { rest with hidden := fieldStarting name v :: rest.hidden }
      else if bases.any (·.classVariables.contains name) then keep
      else if (Value.lookup? types name).isSome then keep
      else if bases.any (·.declares name) then throw (.overriddenField name)
      else throw (.untypedField name (← v.shown w.view))

/-- The hidden fields that a body gives types for and no values. -/
def typedHidden (w : World) (sorted : Sorted) :
    List (Value × Value) → Except Fault (List Field)
  | [] => .ok []
  | (.text name, type) :: types => do
    let taken := (fieldNames sorted.hidden).contains name || sorted.exempt.contains name
    let isVariable := (type.text?.map TypeValue.isClassVariable).getD false
    if !isHidden name || taken || isVariable then typedHidden w sorted types
    else
      if let some s := type.text? then
        let _ ← TypeValue.termOf s
      return ⟨name, .required⟩ :: (← typedHidden w sorted types)
  | (key, _) :: _ => w.calling key "startswith"

/-- The types that a body or a class gives, which are a dictionary. -/
def typesOf (w : World) (members : Assoc String Member) : Except Fault (List (Value × Value)) := do
  match ← w.given members "__annotations__" with
  | .dict es _ => return es
  | _ => return []

/-- Reads a body of a validated class. -/
def readBody (w : World) (bases : List Nat) (settings : List (Value × Value))
    (body : Assoc String Member) : Except Fault Reading := do
  let inherited := w.schemas bases
  let types ← w.typesOf body
  let exempt := (Value.lookup? settings "ignored_types").getD (.tuple [])
  w.checkExempt exempt
  if Assoc.contains body "__root__" || (Value.lookup? types "__root__").isSome then throw .rootField
  match exempt with
  | .tuple l _ => if !isHollow l then throw .notClasses
  | _ => pure ()
  let sorted ← w.sortBody inherited types body
  let hidden := sorted.hidden ++ (← w.typedHidden sorted types)
  return {
    members := Assoc.put (united sorted.kept) "model_config" (.constant (.dict settings))
    hidden, settings }

/-! ### Types of fields -/

/-- A name that a class or an ancestor gives a type for: the value of the type, or the name in it
that nothing is bound to; and whether the name is no field, but a variable of the class. -/
structure Typing where
  name : String
  given : Except String TypeValue
  isOutside : Bool

/-- What a name in the type of a field stands for where a class gives the type. -/
def boundIn (w : World) (c : Nat) (name : String) : Option Value :=
  if name = (w.cls c).name then some (.cls (w.ref c))
  else (Assoc.get? (w.cls c).members name).bind fun m =>
    (m.ofBody w.view (w.ref c) [] name).toOption

/-- What the types of fields are found by where a class gives them. -/
def scopeOf (w : World) (c : Nat) : TypeScope :=
  { objects := w.view
    named := fun name => (w.boundIn c name).map TypeValue.ofValue
    read := fun v name => match v with
      | .cls (.declared c ..) => w.readClass w.view c name
      | v => v.attr w.view name }

def typingOf (w : World) (c : Nat) (key type : Value) : Except Fault Typing := do
  match key with
  | .text name =>
    match TypeValue.ofGiven (w.scopeOf c) type with
    | .ok t => return ⟨name, .ok t, false⟩
    | .error (.unboundName unbound) =>
      return ⟨name, .error unbound, (type.text?.map TypeValue.isClassVariable).getD false⟩
    | .error f => throw f
  | key => w.calling key "startswith"

/-- The names that a class itself gives types for. -/
def typingsIn (w : World) (c : Nat) : Except Fault (List Typing) := do
  let types ← w.given (w.cls c).members "__annotations__"
  if !(← types.truth w.view) then return []
  match types with
  | .dict es _ => es.mapM fun e => w.typingOf c e.1 e.2
  | types => w.calling types "items"

/-- The names that a class and its ancestors give types for, those of the most remote ancestor
first, each with the type of the most derived class. -/
def typings (w : World) (c : Nat) : Except Fault (List Typing) := do
  let found ← (w.ancestors c).reverse.mapM w.typingsIn
  let put (m : Assoc String Typing) (t : Typing) : Assoc String Typing := Assoc.put m t.name t
  return Assoc.values (found.flatten.foldl put [])

/-! ### Fields -/

/-- The beginnings of names that are kept for the functions of validated classes. -/
def keptBeginnings (w : World) (settings : List (Value × Value)) : Except Fault (List Value) :=
  match Value.lookup? settings "protected_namespaces" with
  | none => .ok [.text "model_validate", .text "model_dump"]
  | some v => v.items w.view

/-- A field has no name with a beginning that is kept if a base has something else under it. -/
def checkKept (w : World) (beginnings : List Value) (bases : List Nat) (name : String) :
    Except Fault Unit :=
  beginnings.forM fun beginning => match beginning with
    | .text s =>
      if !s.toList.isPrefixOf name.toList then .ok ()
      else match bases.find? fun b =>
          (w.classMember? b name).isSome && !(w.fieldsOf b).contains name with
        | some b => do
          let found ← w.readClass w.view b name
          throw (.keptFieldName name (← found.written w.view) s)
        | none => match beginnings.find? fun v => v.text?.isNone with
          | some v => .error (.badBeginning v.typeName)
          | none => .ok ()
    | _ => .ok ()

/-- The value that a class has under the name of a field, apart from the functions of all validated
classes that a field may replace. -/
def assigned? (w : World) (c : Nat) (name : String) : Except Fault (Option Value) :=
  match w.classMember? c name with
  | some (.routine _ owner) =>
    if owner = (w.cls validator).name && replaceableRoutines.contains name then .ok none
    else w.classAttribute? c name
  | _ => w.classAttribute? c name

/-- A field of a class with its type: by what the class has under its name, or else by the first
base that has the field, unless the class gives it a type of its own. -/
def fieldTyped (w : World) (c : Nat) (own : List String) (t : Typing) :
    Except Fault (Option (Field × Except String TypeValue)) := do
  let found ← w.assigned? c t.name
  if isUnderscored t.name then return none
  let hasRoot ← (← w.readClass w.view c "__pydantic_root_model__").truth w.view
  if hasRoot && t.name ≠ "root" then throw (.rootNeeded t.name)
  match found with
  | some v =>
    match t.given with
    | .ok (.other type) => if !type.isNull && type.isOne v then throw .startIsType
    | _ => pure ()
    return some (fieldStarting t.name v, t.given)
  | none =>
    let inherited := (w.schemas (w.cls c).bases).findSome? fun schema => do
      let f ← schema.fields.find? fun f => f.name = t.name
      return (f, (Assoc.get? schema.given t.name).getD t.given)
    match inherited with
    | some f => return some (if own.contains t.name then (⟨t.name, .required⟩, t.given) else f)
    | none => return some (⟨t.name, .required⟩, t.given)

/-- The fields of a class with their types, and its variables that are no fields. -/
def fieldsTyped (w : World) (c : Nat) (settings : List (Value × Value)) :
    Except Fault (List (Field × Except String TypeValue) × List String) := do
  let found ← w.typings c
  let own ← w.typingsIn c
  let beginnings ← if found.isEmpty then pure [] else w.keptBeginnings settings
  let fields ← found.mapM fun t => do
    if t.name = "model_config" then return none
    w.checkKept beginnings (w.cls c).bases t.name
    if t.isOutside then return none
    w.fieldTyped c (own.map (·.name)) t
  return (fields.filterMap id, (found.filter (·.isOutside)).map (·.name))

/-! ### Validation -/

/-- The type of a field in which a name was unbound where an ancestor gave it, as a class itself
would give it. -/
def laterGiven (w : World) (c : Nat) (e : String × Except String TypeValue) :
    Except Fault (String × Except String TypeValue) := do
  match e.2 with
  | .ok _ => return e
  | .error _ =>
    let found ← (w.ancestors c).findSomeM? fun a => do
      match ← w.given (w.cls a).members "__annotations__" with
      | .dict es _ => return Value.lookup? es e.1
      | _ => return none
    match found with
    | some type => return (e.1, (← w.typingOf c (.text e.1) type).given)
    | none => return e

/-- A class has nothing of its own in the place of what describes it for validation. -/
def checkDescribing (w : World) (c : Nat) : Except Fault Unit := do
  let rule := "__get_pydantic_core_schema__"
  match w.member? c rule with
  | some (.routine ..) => pure ()
  | _ =>
    let found ← w.classAttributeOr c rule .null
    if !found.isNull then throw (w.uncallable found)
    let former ← w.classAttributeOr c "__get_validators__" .null
    if !former.isNull then throw (w.uncallable former)
  match ← w.given (w.cls c).members "__pydantic_core_schema__" with
  | .null => return ()
  | .dict es _ => if (Value.lookup? es "type").isNone then throw (.missingKey (.text "type"))
  | v => throw (.badSubscript v.typeName)

/-- A class describes itself in no way of the past. -/
def checkFormer (w : World) (c : Nat) : Except Fault Unit := do
  let isUsual := match w.member? c "__get_pydantic_json_schema__" with
    | some (.routine ..) | some (.constant .null) => true
    | _ => false
  if (← w.classAttribute? c "__modify_schema__").isSome && isUsual then
    throw (.formerDescription (w.cls c).name)

def checkWriting (w : World) (settings : List (Value × Value)) : Except Fault Unit := do
  let v := setting settings "json_encoders"
  if ← v.truth w.view then
    match v with
    | .dict .. => return ()
    | v => w.calling v "get"

/-- Settings give fields no titles by something that cannot be called. -/
def checkTitling (w : World) (settings : List (Value × Value)) : Except Fault Unit :=
  match setting settings "field_title_generator" with
  | .null => .ok ()
  | v => .error (w.uncallable v)

/-- What the fields of a class, with the types that are given for them, ask of their values, and the
settings as they are completed. -/
def validatedBy (w : World) (c : Nat) (given : Assoc String (Except String TypeValue))
    (schema : Schema) : Except Fault Schema := do
  w.checkDescribing c
  let settings ← w.completed schema.settings
  let lenient ← w.isSet settings "arbitrary_types_allowed"
  let fields ← schema.fields.mapM fun f => do
    match Assoc.get? given f.name with
    | some (.ok t) =>
      let type ← t.fieldType w.view lenient
      w.checkWriting settings
      w.checkTitling settings
      return (f, type)
    | some (.error name) => throw (.undefinedType (w.cls c).name name)
    | none => return (f, FieldType.any)
  w.checkFormer c
  w.checkWriting settings
  checkValidator settings fields
  checkSerializer settings fields
  return { schema with settings, types := fields.map fun f => (f.1.name, f.2) }

/-- The schema of a class with what its fields ask of their values. A name that nothing is bound to
keeps objects from being validated, and so does any fault if validation is put off. -/
def settledSchema (w : World) (c : Nat) (schema : Schema) : Except Fault Schema := do
  let given ← schema.given.mapM (w.laterGiven c)
  let undefined? := schema.fields.findSome? fun f => match Assoc.get? given f.name with
    | some (.error name) => some (Fault.undefinedType (w.cls c).name name)
    | _ => none
  let isPutOff ← w.isSet schema.settings "defer_build"
  match undefined?, w.validatedBy c given schema with
  | some f, _ => return { schema with fault? := some f }
  | none, .ok settled => return { settled with isPutOff }
  | none, .error f => if isPutOff then return { schema with fault? := some f } else throw f

/-! ### Members -/

/-- Whether a class that cannot be changed finds its keys by itself: unless its body or a base does.
-/
def findsKeys (w : World) (body : Assoc String Member) (bases : List Nat) :
    Except Fault Bool := do
  if Assoc.contains body "__hash__" then return false
  match bases.head?.bind fun b => w.owner? b "__hash__" with
  | some (a, .routine ..) => return (w.cls a).fields?.isNone
  | some (_, .constant .null) | none => return true
  | some (_, m) =>
    let found ← m.ofClass w.view default [] "__hash__"
    let _ ← found.key w.view
    return false

/-- Whether something has been put in the place of the constructor of validated classes. -/
def hasOwnStart (w : World) (c : Nat) : Except Fault Bool := do
  match w.owner? c "__init__" with
  | some (a, .routine ..) => return a ≠ validator
  | _ =>
    let found ← w.readClass w.view c "__init__"
    let said ← found.attrOr w.view "__pydantic_base_init__" (.bool false)
    return !(← said.truth w.view)

def looksAtNew (w : World) (c : Nat) (schema : Schema) : Except Fault Bool := do
  let rule := "model_post_init"
  let _ ← w.readClass w.view c rule
  let isUsual := match w.owner? c rule with
    | some (a, _) => a = validator
    | none => true
  return !schema.hidden.isEmpty || !isUsual

/-- Ancestors that are not validated say nothing of how fields are validated. -/
def checkSharedRules (w : World) (ancestors : List Nat) : Except Fault Unit :=
  ancestors.reverse.forM fun a => do
    if !w.isValidated a then
      let found ← w.given (w.cls a).members "__pydantic_decorators__"
      if !found.isNull then
        let rules ← w.attributeOf found "validators"
        w.calling rules "items"

/-- The parameters that a class tells; those of its bases are gone through. -/
def parametersOf (w : World) (c : Nat) : Except Fault Value := do
  let told ← match ← w.classAttributeOr c "__pydantic_generic_metadata__" (.dict []) with
    | .dict es _ => pure ((Value.lookup? es "parameters").getD (.tuple []))
    | v => w.calling v "get"
  let own ← w.classAttributeOr c "__parameters__" .null
  let found := if ← own.truth w.view then own else told
  if (← found.truth w.view) && (← told.truth w.view) then
    let _ ← told.items w.view
  return found

/-- Hidden values are told their names if their classes have something for that which can be called.
-/
def checkHiddenNaming (w : World) (hidden : List Field) : Except Fault Unit :=
  hidden.forM fun f => match f.start with
    | .value (.object i c) => do
      let rule ← (Value.object i c).attrOr w.view "__set_name__" .null
      if rule.isCallable w.rules then throw (w.uncallable rule)
    | _ => .ok ()

/-- The nearest ancestor with a function that looks at new validated classes has nothing else in the
place of one. -/
def checkDerived (w : World) (ancestors : List Nat) : Except Fault Unit := do
  let rule := "__pydantic_init_subclass__"
  match ancestors.findSome? fun a => Assoc.get? (w.cls a).members rule with
  | none | some (.routine ..) => return ()
  | some m => throw (w.uncallable (← m.ofClass w.view default [] rule))

/-- What the body of a validated class holds beyond what it gives. -/
def bodyMembers (w : World) (bases : List Nat) (hidden : List Field) : Assoc String Member :=
  let outside := ((w.schemas bases).flatMap (·.classVariables)).eraseDups
  let described := hidden.map fun f => (f.name, hiddenDescription)
  [("__class_vars__", .constant (.set (outside.map .text))),
    (toldHidden, .constant (.dict (Value.entries described)))]

/-- What a validated class tells of itself. -/
def schemaMembers (schema : Schema) (hasOwnStart looksAtNew : Bool) (parameters : Value) :
    List (String × Member) :=
  let flag (b : Bool) : Member := .constant (.bool b)
  let metadata := [("origin", Value.null), ("args", .tuple []), ("parameters", parameters)]
  let described := (schema.hidden.filter fun f =>
    !schema.classVariables.contains f.name).map fun f => (f.name, hiddenDescription)
  [("__class_vars__", .constant (.set (schema.classVariables.map .text))),
    (toldHidden, .constant (.dict (Value.entries described))),
    ("model_config", .constant (.dict schema.settings)),
    ("__pydantic_custom_init__", flag hasOwnStart),
    ("__pydantic_post_init__",
      .constant (if looksAtNew then .text "model_post_init" else .null)),
    ("__pydantic_setattr_handlers__", .constant (.dict [])),
    ("__pydantic_decorators__", .constant (.member "DecoratorInfos" "DecoratorInfos()")),
    ("__pydantic_generic_metadata__", .constant (.dict (Value.entries metadata))),
    (toldFields, .fieldTable),
    ("__pydantic_computed_fields__", .constant (.dict [])),
    ("_abc_impl", typedMember "_abc_data")] ++
  completeMembers (schema.fault?.isNone && !schema.isPutOff)

/-! ### Classes -/

/-- A drafted class with its validated fields, which are no members. -/
def withSchema (w : World) (c : RecordClass) (reading : Reading) : Except Fault RecordClass := do
  let id := w.classes.length
  let inherited := w.schemas c.bases
  let drafted := w.withClass c
  let leftOpen := (← w.openMembers c.members) ++ (← drafted.openInherited id c.bases)
  let c := { c with members := united (c.members ++ [openSetting leftOpen]) }
  let hidden := mergedFields (inherited.flatMap (·.hidden) ++ reading.hidden)
  let schema : Schema := { fields := [], hidden, settings := reading.settings }
  let hasOwnStart ← drafted.hasOwnStart id
  let looksAtNew ← drafted.looksAtNew id schema
  w.checkSharedRules c.ancestors.tail
  let parameters ← drafted.parametersOf id
  w.checkHiddenNaming reading.hidden
  let (fields, outside) ← drafted.fieldsTyped id reading.settings
  let classVariables := (inherited.flatMap (·.classVariables) ++ outside).eraseDups
  let names := fieldNames (fields.map (·.1))
  let members := c.members.filter fun e => !names.contains e.1
  let schema := { schema with
    fields := fields.map (·.1)
    hidden := hidden.filter fun f => !outside.contains f.name
    classVariables
    given := fields.map fun f => (f.1.name, f.2) }
  let schema ← (w.withClass { c with members }).settledSchema id schema
  let kept := (hidden.filter fun f => outside.contains f.name).filterMap fun f =>
    f.start?.map fun v => (f.name, Member.constant v)
  let members := united (members ++ kept ++ schemaMembers schema hasOwnStart looksAtNew parameters)
  let isKeyed ← if schema.isFrozen then w.findsKeys reading.members c.bases else pure false
  let members :=
    if isKeyed then Assoc.put members "__hash__" (.routine .method c.qualname) else members
  w.checkDerived c.ancestors.tail
  return { c with members, schema? := some schema }

def draftValidated (name qualname : String) (shape : Shape) (bases : List Nat)
    (body : Assoc String Member) : Action World RecordClass := do
  let settings ← settingsOver bases body
  let reading ← (← Action.get).readBody bases settings body
  let members := united (reading.members ++ (← Action.get).bodyMembers bases reading.hidden)
  let c ← draft name qualname shape bases members fun w => w.checkNaming name members
  (← Action.get).withSchema c reading

end RecordSql.World
