import RecordSql.Record.Validation
import RecordSql.World.Display

/-! Settings of validated classes: what a body gives, over those of its bases, and what the class
needs of them. -/

namespace RecordSql.World

def given (w : World) (body : Assoc String Member) (name : String) : Except Fault Value :=
  match Assoc.get? body name with
  | none => .ok .null
  | some m => m.ofBody w.view default [] name

/-! ### Settings given -/

/-- The two items of each part of a value that dictionaries can be changed by. -/
def pairsFrom (objects : Objects) (index : Nat) :
    List Value → Except Fault (List (Value × Value))
  | [] => .ok []
  | v :: l => do
    let items ← match v.items objects with
      | .ok items => pure items
      | .error f => throw (if f.kind = .type then .notPair index else f)
    match items with
    | [key, value] => return (key, value) :: (← pairsFrom objects (index + 1) l)
    | items => throw (.wrongPair index items.length)

def changeOf (v : Value) : Action World (List (Value × Value)) := do
  let w ← Action.get
  match v with
  | .dict es _ => return es
  | v =>
    match w.attributeOf v "keys" with
    | .ok found => Action.faulty (w.uncallable found)
    | .error f => if f.kind ≠ .attr then Action.faulty f
    let items ← drawing (v.elements w.view)
    pairsFrom w.view 0 items

def settingsOfBase (c : Nat) : Action World (List (Value × Value)) := do
  let w ← Action.get
  let v ← w.classAttributeOr c "model_config" .null
  if !(← v.truth w.view) then return []
  match v with
  | .dict .. | .list .. | .set .. | .fixedSet .. => changeOf v
  | v => Action.ofFault (w.calling v "copy")

def attributeNames (w : World) (v : Value) : List String :=
  match v with
  | .object i _ => match w.object? i with
    | some o =>
      (Value.named o.vars).map (·.1) ++
        (w.ancestors o.cls).flatMap fun a => Assoc.keys (w.cls a).members
    | none => []
  | v => v.attributeNames

/-- The settings that the attributes of a value are, apart from those of everything. -/
def settingsToldBy (w : World) (v : Value) : Except Fault (List (Value × Value)) := do
  let isOpen (name : String) : Bool := !List.isPrefixOf ['_', '_'] name.toList
  let names := ((w.attributeNames v).filter isOpen).eraseDups
  let sorted := names.mergeSort fun a b => !decide (Text.codes b < Text.codes a)
  sorted.mapM fun name => do return (.text name, ← w.attributeOf v name)

def settingsOfBody (body : Assoc String Member) : Action World (List (Value × Value)) := do
  let w ← Action.get
  let former ← w.given body "Config"
  let settings ← w.given body "model_config"
  match Assoc.get? body "__annotations__" with
  | none => pure ()
  | some m => match ← m.ofBody w.view default [] "__annotations__" with
    | .dict es _ =>
      let declared := (Value.lookup? es "model_config").getD .null
      if ← declared.truth w.view then
        if settings.isNull then Action.faulty .settingsField
    | v => Action.ofFault (w.calling v "get")
  if ← former.truth w.view then
    if ← settings.truth w.view then Action.faulty .settingsTwice
  if ← settings.truth w.view then changeOf settings
  else match former with
    | .null => return []
    | .dict es _ => return es
    | v => w.settingsToldBy v

def settingsOver (bases : List Nat) (body : Assoc String Member) :
    Action World (List (Value × Value)) := do
  let inherited ← bases.mapM settingsOfBase
  let own ← settingsOfBody body
  Value.distinctEntries (← Action.get).view (inherited.flatten ++ own)

/-! ### Settings needed -/

def setting (settings : List (Value × Value)) (name : String) : Value :=
  (Value.lookup? settings name).getD .null

/-- Whether a setting counts as true. -/
def isSet (w : World) (settings : List (Value × Value)) (name : String) : Except Fault Bool :=
  (setting settings name).truth w.view

/-- The settings of a class when it validates: fields go by their names or by other ones, and what
is said of that in one way is said in the others. -/
def completed (w : World) (settings : List (Value × Value)) :
    Except Fault (List (Value × Value)) := do
  let byName := setting settings "populate_by_name"
  let isOpen := (setting settings "validate_by_name").isNull
  let settings :=
    if byName.isNull || !isOpen then settings
    else Value.put (Value.put settings "validate_by_alias" (.bool true)) "validate_by_name" byName
  let settings := match setting settings "validate_by_alias" with
    | .bool false =>
      if (setting settings "validate_by_name").isNull then
        Value.put settings "validate_by_name" (.bool true)
      else settings
    | _ => settings
  let byOther := (Value.lookup? settings "validate_by_alias").getD (.bool true)
  if !(← byOther.truth w.view) then
    if !(← w.isSet settings "validate_by_name") then throw .namelessFields
  return settings

def validation (settings : List (Value × Value)) : Validation :=
  let isTrue (name : String) : Bool := match setting settings name with
    | .bool b => b
    | _ => false
  let number? (name : String) : Option Int := match setting settings name with
    | .int n => some n
    | .bool b => some (if b then 1 else 0)
    | _ => none
  { strict := isTrue "strict"
    writesNumbers := isTrue "coerce_numbers_to_str"
    finiteOnly := match setting settings "allow_inf_nan" with
      | .bool b => !b
      | _ => false
    byteCoding := match setting settings "val_json_bytes" with
      | .text "hex" => .hex
      | .text "base64" => .base64
      | _ => .utf8
    trims := isTrue "str_strip_whitespace"
    lowers := isTrue "str_to_lower"
    uppers := isTrue "str_to_upper"
    least? := number? "str_min_length"
    most? := number? "str_max_length" }

/-! ### Problems of settings -/

def wrongKind (v : Value) (kind : String) : String :=
  "TypeError: '" ++ v.typeName ++ "' object cannot be converted to '" ++ kind ++ "'"

def truthProblem? (settings : List (Value × Value)) (name : String) : Option String :=
  match setting settings name with
  | .null | .bool _ => none
  | v => some (wrongKind v "PyBool")

def countProblem? (settings : List (Value × Value)) (name : String) : Option String :=
  match setting settings name with
  | .null | .bool _ => none
  | .int n =>
    if n < 0 then some "OverflowError: can't convert negative int to unsigned"
    else if n < 0x10000000000000000 then none
    else some "OverflowError: int too big to convert"
  | v => some ("TypeError: '" ++ v.typeName ++ "' object cannot be interpreted as an integer")

def asProblem (problem : String) : String := "SchemaError: " ++ problem

/-- A way in which values of some types are read or written: its name, the setting that says it, and
what that may say. -/
structure Mode where
  name : String
  setting : String
  choices : List String

namespace Mode

def durationsWritten : Mode := ⟨"TimedeltaMode", "ser_json_timedelta", ["iso8601", "float"]⟩

def bytesWritten : Mode := ⟨"BytesMode", "ser_json_bytes", ["utf8", "base64", "hex"]⟩

def bytesRead : Mode := { bytesWritten with setting := "val_json_bytes" }

def numbersWritten : Mode :=
  ⟨"InfNanMode", "ser_json_inf_nan", ["null", "constants", "strings"]⟩

/-- The problem of a text that is no choice. -/
def unknown (m : Mode) (s : String) : String :=
  "Invalid " ++ m.name ++ " serialization mode: `" ++ s ++ "`, expected " ++
    String.join (m.choices.map (· ++ " or "))

def problem? (m : Mode) (settings : List (Value × Value)) : Option String :=
  match World.setting settings m.setting with
  | .null => none
  | .text s => if m.choices.contains s then none else some (asProblem (m.unknown s))
  | v => some (wrongKind v "PyString")

def check (m : Mode) (settings : List (Value × Value)) : Except Fault Unit :=
  match World.setting settings m.setting with
  | .null => .ok ()
  | .text s => if m.choices.contains s then .ok () else .error (.badSettings (m.unknown s))
  | v => .error (.notConverted v.typeName "PyString")

end Mode

/-- What is made of settings and the types of fields: what validates values, and what writes them.
-/
inductive Purpose where
  | validator
  | serializer

namespace Purpose

def inside (purpose : Purpose) (part problem : String) : String :=
  match purpose with
  | validator => "Error building \"" ++ part ++ "\" validator:\n  " ++ problem
  | serializer => "Error building `" ++ part ++ "` serializer:\n  " ++ problem

def ofField (purpose : Purpose) (name problem : String) : String :=
  match purpose with
  | validator => "Field \"" ++ name ++ "\":\n  " ++ problem
  | serializer => "Field `" ++ name ++ "`:\n  " ++ problem

def plainProblem? (settings : List (Value × Value)) : Purpose → FieldType → Option String
  | validator, .text =>
    (["str_min_length", "str_max_length"].findSome? (countProblem? settings)).or
      (["str_strip_whitespace", "str_to_lower", "str_to_upper", "coerce_numbers_to_str"].findSome?
        (truthProblem? settings))
  | validator, .float => truthProblem? settings "allow_inf_nan"
  | serializer, .float => Mode.numbersWritten.problem? settings
  | validator, .bytes => Mode.bytesRead.problem? settings
  | serializer, .bytes => Mode.bytesWritten.problem? settings
  | _, _ => none

def ofPart (purpose : Purpose) (part : String) (problem? : Option String) : Option String :=
  problem?.map fun p => asProblem (purpose.inside part p)

mutual

def typeProblem? (settings : List (Value × Value)) (purpose : Purpose) :
    FieldType → Option String
  | .text => purpose.ofPart "str" (plainProblem? settings purpose .text)
  | .float => purpose.ofPart "float" (plainProblem? settings purpose .float)
  | .bytes => purpose.ofPart "bytes" (plainProblem? settings purpose .bytes)
  | .list t => purpose.ofPart "list" (typeProblem? settings purpose t)
  | .set t => purpose.ofPart "set" (typeProblem? settings purpose t)
  | .fixedSet t => purpose.ofPart "frozenset" (typeProblem? settings purpose t)
  | .row t => purpose.ofPart "tuple" (typeProblem? settings purpose t)
  | .tuple l => purpose.ofPart "tuple" (firstProblem? settings purpose l)
  | .dict k v => purpose.ofPart "dict"
      ((typeProblem? settings purpose k).or (typeProblem? settings purpose v))
  | .union l => purpose.ofPart "union" (firstProblem? settings purpose l)
  | .optional t => purpose.ofPart "nullable" (typeProblem? settings purpose t)
  | _ => none

def firstProblem? (settings : List (Value × Value)) (purpose : Purpose) :
    List FieldType → Option String
  | [] => none
  | t :: l => (typeProblem? settings purpose t).or (firstProblem? settings purpose l)

end

def fieldProblem? (settings : List (Value × Value)) (purpose : Purpose) (f : Field)
    (t : FieldType) : Option String :=
  let found := typeProblem? settings purpose t
  let found :=
    if f.isRequired then found
    else
      let ofStart := match purpose with
        | validator => truthProblem? settings "validate_default"
        | serializer => none
      purpose.ofPart "default" (found.or ofStart)
  found.map fun p => asProblem (purpose.ofField f.name p)

def fieldsProblem? (settings : List (Value × Value)) (purpose : Purpose)
    (fields : List (Field × FieldType)) : Option String :=
  fields.findSome? fun f => fieldProblem? settings purpose f.1 f.2

end Purpose

def extraProblem? (settings : List (Value × Value)) : Option String :=
  match setting settings "extra" with
  | .null => none
  | .text s =>
    if ["allow", "forbid", "ignore"].contains s then none
    else some (asProblem ("Invalid extra_behavior: `" ++ s ++ "`"))
  | v => some (wrongKind v "PyString")

/-- The problem of settings with objects that are given for a field. -/
def instanceProblem? (settings : List (Value × Value)) : Option String :=
  match setting settings "revalidate_instances" with
  | .null => none
  | .text s =>
    if ["always", "never", "subclass-instances"].contains s then none
    else some (asProblem ("Invalid revalidate_instances value: " ++ s))
  | v => some (wrongKind v "PyString")

/-- Settings are of the kinds that validation needs. -/
def checkValidator (settings : List (Value × Value)) (fields : List (Field × FieldType)) :
    Except Fault Unit := do
  let part := Purpose.validator
  let ofFields := (((truthProblem? settings "strict").or (extraProblem? settings)).or
    (part.fieldsProblem? settings fields)).or
      (["from_attributes", "loc_by_alias", "validate_by_alias", "validate_by_name"].findSome?
        (truthProblem? settings))
  let problem := (part.ofPart "model-fields" ofFields).or (instanceProblem? settings)
  if let some p := problem then throw (.badSettings (part.inside "model" p))
  for name in ["hide_input_in_errors", "validation_error_cause"] do
    match setting settings name with
    | .null | .bool _ => pure ()
    | v => throw (.notConverted v.typeName "PyBool")
  match setting settings "cache_strings" with
  | .null | .bool _ => return ()
  | .text s => unless ["all", "keys", "none"].contains s do throw (.badCaching true)
  | _ => throw (.badCaching false)

/-- Settings are of the kinds that writing needs. -/
def checkSerializer (settings : List (Value × Value)) (fields : List (Field × FieldType)) :
    Except Fault Unit := do
  let part := Purpose.serializer
  let ofFields := (truthProblem? settings "serialize_by_alias").or
    (part.fieldsProblem? settings fields)
  if let some p := part.ofPart "model-fields" ofFields then
    throw (.badSettings (part.inside "model" p))
  [Mode.durationsWritten, .bytesWritten, .numbersWritten].forM (·.check settings)

end RecordSql.World
