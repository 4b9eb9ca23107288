import RecordSql.Record.Instance
import RecordSql.Text.Identifier
import RecordSql.Text.NormalForm
import RecordSql.Value.References

/-! Class bodies: what is checked of the fields and slots that they declare, and which members the
class has from them. -/

namespace RecordSql

/-! ### Fields of a constructor -/

/-- The name by which a constructor takes the new object if one of its fields is `self`. -/
def replacedSubject : String := "__dataclass_self__"

/-- Fields of a constructor have different names, none of which is reserved. -/
def checkNames (seen : List String) : List String → Except Fault Unit
  | [] => .ok ()
  | name :: names =>
    if !Text.isIdentifier name then .error (.badFieldName name)
    else if Text.reservedWords.contains name then .error (.reservedFieldName name)
    else if seen.contains name then .error (.repeatedField name)
    else checkNames (name :: seen) names

/-- No field without a start value follows one with. -/
def checkOrder (fields : List Field) : Except Fault Unit :=
  match (fields.dropWhile Field.isRequired).find? Field.isRequired with
  | some f => .error (.defaultOrder f.name)
  | none => .ok ()

/-- The name by which a constructor takes the new object; no field has it. -/
def subjectName (fields : List Field) : String :=
  if (fieldNames fields).contains "self" then replacedSubject else "self"

/-- The name by which a constructor knows the type of a field. -/
def typeTerm (field : String) : String := "_type_" ++ field

/-- The name by which a constructor knows how the start value of a field is made. -/
def startTerm (field : String) : String := "_dflt_" ++ field

/-- The name by which a constructor knows what stands for an argument that is not given, if its
value is made anew. -/
def absenceTerm : String := "_HAS_DEFAULT_FACTORY"

/-- The name by which the constructor of a frozen class knows what sets the fields. -/
def setterTerm : String := "__dataclass_builtins_object__"

/-- The first name that stands among those before it. -/
def repeatedName? (seen : List String) : List String → Option String
  | [] => none
  | name :: names => if seen.contains name then some name else repeatedName? (name :: seen) names

/-- The parameters of a constructor differ in their normal form, which is the way that the fields
have to be written in, and none is a constant. -/
def checkParameters (fields : List Field) : Except Fault Unit := do
  let names := (fieldNames fields).map Text.normalForm
  if let some name := repeatedName? [] (names.map typeTerm) then throw (.repeatedParameter name 1)
  if let some name := repeatedName? [subjectName fields] names then
    throw (.repeatedParameter name 2)
  if names.contains "__debug__" then throw (.constantParameter "__debug__" 2)
  if let some f := fields.find? fun f => Text.normalForm f.name ≠ f.name then
    throw (.unknownTerm (typeTerm f.name))

/-- What a class has under the name of a field whose start value is made anew for every object. -/
def startDescription : Value := .member "Field" "Field"

/-- What the body of a class with a constructor has under the names of the fields that start with
something: what describes the field. -/
def startMembers (fields : List Field) : Assoc String Member :=
  (fields.filter fun f => !f.isRequired).map fun f => (f.name, .constant startDescription)

def fieldTypes (fields : List Field) : String × Member :=
  ("__annotations__", .constant (.dict (Value.entries
    (fields.map fun f => (f.name, .cls (.plain "Any"))))))

/-- What a class tells of its constructor. -/
def constructorSettings (frozen : Bool) : String × Member :=
  ("__dataclass_params__", .constant (.member "_DataclassParams"
    ("_DataclassParams(init=True,repr=True,eq=True,order=False,unsafe_hash=False,frozen=" ++
      (if frozen then "True" else "False") ++ ")")))

/-- How start values are made is no member of a finished class. Two members cannot be taken from a
class. -/
def checkLeaving (cls name : String) : Except Fault Unit :=
  if name = "__module__" || name = "__doc__" then .error (.memberKept name cls) else .ok ()

/-- The rules by which a frozen class keeps its fields. -/
def freezingRules : List String := ["__setattr__", "__delattr__"]

/-- A frozen class has no members of its own in the place of its rules. -/
def checkRules (cls : String) (own : Assoc String Member) (frozen : Bool) : Except Fault Unit :=
  match freezingRules.find? (Assoc.contains own) with
  | some rule => if frozen then .error (.replacedRule rule cls) else .ok ()
  | none => .ok ()

/-- A field as the description of its class shows it. -/
def fieldText (objects : Objects) (f : Field) : Except Fault String := do
  match f.start with
  | .required => return f.name ++ ": Any"
  | .value v => return f.name ++ ": Any = " ++ (← v.shown objects)
  | .emptyList | .emptyDict => return f.name ++ ": Any = <factory>"

/-- The fields of a class in the way its constructor takes them. -/
def fieldsText (objects : Objects) (fields : List Field) : Except Fault String := do
  let texts ← fields.mapM (fieldText objects)
  return "".intercalate (("(" ++ commaSeparated texts ++ ") -> None").splitOn " -> None")

/-- The members that a class gets for the fields of its constructor. A member of its own keeps the
place of a function, but not of the tables of the fields. -/
def fieldedMembers (qualname : String) (own : Assoc String Member) (fields : List Field)
    (frozen : Bool) : Assoc String Member :=
  let given (name : String) : Bool := Assoc.contains own name
  let routine (name : String) : String × Member := (name, .routine .method qualname)
  let hashless := match Assoc.get? own "__hash__" with
    | none => true
    | some (.constant v) => v.isNull && given "__eq__"
    | some _ => false
  let functions := ["__init__", "__repr__", "__eq__"] ++ (if frozen then freezingRules else [])
  let table : String × Member := ("__dataclass_fields__", .constant (.dict (Value.entries
    (fields.map fun f => (f.name, startDescription)))))
  let names := Value.tuple (fields.map fun f => .text f.name)
  ((functions.filter fun f => !given f).map routine) ++ [table] ++
    (if given "__match_args__" then [] else [("__match_args__", .constant names)]) ++
    (if hashless then [if frozen then routine "__hash__" else ("__hash__", .constant .null)]
      else [])

/-! ### Slots -/

/-- Slots are identifiers; the variables have one slot, and so have the links, unless the objects
have them already. -/
def checkSlots (hasVariables hasLinks : Bool) : List Value → Except Fault (List String)
  | [] => .ok []
  | .text name :: slots => do
    if !Text.isIdentifier name then throw .badSlotName
    if name = "__dict__" && hasVariables then throw .repeatedVariables
    if name = "__weakref__" && hasLinks then throw .repeatedLinks
    return name :: (← checkSlots (hasVariables || name = "__dict__")
      (hasLinks || name = "__weakref__") slots)
  | v :: _ => .error (.badSlotItem v.typeName)

/-- The name of a slot: two underscores in front, and not behind, make it private to the class. -/
def slotName (cls name : String) : String :=
  let owner := cls.toList.dropWhile (· = '_')
  let isPrivate := "__".toList.isPrefixOf name.toList && !"__".toList.isSuffixOf name.toList
  if isPrivate && !owner.isEmpty then "_" ++ String.ofList owner ++ name else name

/-- The slots that the instances of a class get, under their full names. -/
def slotNames (cls : String) (slots : List String) : List String :=
  (slots.filter fun s => s ≠ "__dict__" && s ≠ "__weakref__").map (slotName cls)

/-- A slot must not bear the name of a member that the class has before. -/
def checkConflicts (taken slots : List String) : Except Fault Unit :=
  match slots.find? fun s => taken.contains s && s ≠ "__qualname__" with
  | some name => .error (.slotConflict name)
  | none => .ok ()

/-! ### Validated fields -/

/-- Fields with their names once: at the first place, as the last of the name says. -/
def mergedFields (fields : List Field) : List Field :=
  (fields.foldl (fun m f => Assoc.put m f.name f.start) []).map fun e => ⟨e.1, e.2⟩

/-- Two underscores in front, as rules have them. -/
def isReserved (name : String) : Bool := "__".toList.isPrefixOf name.toList

/-- A name that no validated field has; hidden fields have such names. -/
def isUnderscored (name : String) : Bool := "_".toList.isPrefixOf name.toList

/-- The names that classes have for themselves, which no hidden field bears. -/
def namesOfClasses : List String :=
  ["__annotations__", "__classcell__", "__doc__", "__module__", "__orig_bases__",
    "__orig_class__", "__qualname__", "__root__"]

def isHidden (name : String) : Bool := isUnderscored name && !namesOfClasses.contains name

/-- What a body has under the name of a field that it says nothing of. -/
def openStart : Value := .member "ellipsis" "Ellipsis"

/-- What a body has under the name of a field whose start value is made anew for every object. -/
def madeStart (maker : String) : Value :=
  .member "FieldInfo"
    ("FieldInfo(annotation=NoneType, required=False, default_factory=" ++ maker ++ ")")

/-- What a body of a validated class has under the name of a field. -/
def bodyStart (f : Field) : Value :=
  match f.start with
  | .required => openStart
  | .value v => v
  | .emptyList => madeStart "list"
  | .emptyDict => madeStart "dict"

def fieldStarting (name : String) (v : Value) : Field :=
  match v with
  | .member "ellipsis" _ => ⟨name, .required⟩
  | .member "FieldInfo" _ =>
    let isMadeBy (maker : String) : Bool := v.isOne (madeStart maker)
    ⟨name, if isMadeBy "list" then .emptyList else if isMadeBy "dict" then .emptyDict
      else .value v⟩
  | v => ⟨name, .value v⟩

def anyClass : Value := .cls (.plain "Any")

/-- The arguments of the function that makes validated classes, which are no fields. -/
def makerArguments : List String :=
  ["__module__", "__config__", "__doc__", "__base__", "__validators__", "__cls_kwargs__",
    "__slots__"]

/-- The body of a class with validated fields of any type. A field in the place of an argument is
none. -/
def validatedBody (fields : List Field) (extra : String) :
    Except Fault (List (String × Member)) := do
  let fields := mergedFields fields
  let has (name : String) : Bool := (fieldNames fields).contains name
  if let some f := fields.find? fun f => f.name = "__module__" || f.name = "__config__" then
    throw (.repeatedKeyword f.name)
  if has "__validators__" || has "__cls_kwargs__" then throw (.notPair 0)
  if has "__base__" then throw .makerConflict
  let about := (fields.find? fun f => f.name = "__doc__").map fun f =>
    ("__doc__", Member.constant (.tuple [anyClass, bodyStart f]))
  let fields := fields.filter fun f => !makerArguments.contains f.name
  return fieldTypes fields :: about.toList ++
    fields.map (fun f => (f.name, Member.constant (bodyStart f))) ++
    [("model_config", .constant (.dict [(.text "extra", .text extra)]))]

/-! ### Members -/

/-- Members under different names, the last of each. -/
def united (members : List (String × Member)) : Assoc String Member :=
  members.foldl (fun m e => Assoc.put m e.1 e.2) []

/-- Members with one more unless they have it already. -/
def withDefault (members : Assoc String Member) (name : String) (m : Member) :
    Assoc String Member :=
  if Assoc.contains members name then members else members ++ [(name, m)]

/-- A class that says what equals its objects, and not what their keys are, has no keys for them. -/
def withKeying (members : Assoc String Member) : Assoc String Member :=
  if Assoc.contains members "__eq__" then withDefault members "__hash__" (.constant .null)
  else members

/-- The label that messages show a class by: its name behind the module that it says it is in. -/
def labelOf (members : Assoc String Member) (name qualname : String) : String :=
  match Assoc.get? members "__module__" with
  | some (.constant (.text module)) =>
    if module = "builtins" then name else module ++ "." ++ qualname
  | _ => name

end RecordSql
