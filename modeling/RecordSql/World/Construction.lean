import RecordSql.World.Assignment

/-! Construction: new objects of classes, from arguments by name or by place, or from trusted
values. -/

namespace RecordSql.World

/-! ### Arguments -/

/-- The arguments of a class, which are told by their names or by their places. -/
inductive Arguments where
  | named (l : List (String × Value))
  | placed (l : List Value)

namespace Arguments

def none : Arguments := placed []

def length : Arguments → Nat
  | named l => l.length
  | placed l => l.length

def placedCount : Arguments → Nat
  | named _ => 0
  | placed l => l.length

def byName (names : List String) : Arguments → List (String × Value)
  | named l => l
  | placed l => names.zip l

end Arguments

/-! ### Constructors with fields -/

/-- What stands for an argument that is not given, if its value is made anew. -/
def absence : Value := .member "_HAS_DEFAULT_FACTORY_CLASS" "<factory>"

/-- The arguments for the fields of a constructor, in their order. The object itself is its first
argument, under a name that no other argument can have. -/
def arguments (c : RecordClass) (fields : List Field) (given : Arguments) :
    Except Fault (Assoc String Value) :=
  let function := c.qualname ++ ".__init__()"
  let names := fieldNames fields
  let named := given.byName names
  let start (f : Field) : Value := match f.start with
    | .value v => v
    | _ => absence
  let needed := (fields.filter Field.isRequired).length
  if names.length < given.placedCount then
    .error (.surplusArguments function (needed + 1) (names.length + 1) (given.placedCount + 1))
  else match named.find? fun e => !names.contains e.1 with
  | some e =>
    if e.1 = subjectName fields then .error (.repeatedArgument function e.1)
    else .error (.unexpectedArgument function e.1)
  | none =>
    match fields.filter fun f => f.isRequired && (named.lookup f.name).isNone with
    | [] => .ok (fields.map fun f => (f.name, (named.lookup f.name).getD (start f)))
    | missing => .error (.missingArguments function (fieldNames missing))

/-- The value that a constructor sets for a field: its argument, or one that is made anew. An
argument under one of the names that the constructor knows takes the place of what it names. -/
def fieldValue (w : World) (args : Assoc String Value) (f : Field) : Except Fault Value :=
  let v := (Assoc.get? args f.name).getD absence
  if f.isMade && v.isOne ((Assoc.get? args absenceTerm).getD absence) then
    match Assoc.get? args (startTerm f.name) with
    | none => .ok (f.start?.getD v)
    | some maker => .error (maker.uncallable w.rules)
  else .ok v

/-- What setting a field by a value ends in: the value sets nothing but its own attributes. -/
def settingFault (w : World) (setter : Value) : Except Fault Fault :=
  match setter with
  | .object i _ => do
    let found ← w.read i "__setattr__"
    match found, (w.object? i).bind fun o => w.member? o.cls "__setattr__" with
    | .member "method" _, some (.routine _ owner) =>
      return .surplusArguments (owner ++ ".__setattr__()") 3 3 4
    | .member "method-wrapper" _, _ => return .wrongCount 2 3
    | found, _ => return found.uncallable w.rules
  | _ => .ok (.wrongCount 2 3)

/-- Sets the fields of a new object. The constructor of a frozen class may do so. -/
def initialise (w : World) (fields : List Field) (frozen : Bool) (args : Assoc String Value) :
    Change :=
  fields.forM fun f =>
    if frozen then do
      let setter? := Assoc.get? args setterTerm
      let fault? ← (setter?.mapM w.settingFault : Except Fault (Option Fault))
      let v ← w.fieldValue args f
      match fault? with
      | some fault => Action.faulty fault
      | none => w.setPlain f.name v
    else do w.setInstance f.name (← w.fieldValue args f)

/-! ### Validated objects -/

def validate (cls : Nat) (schema : Schema) (given : List (String × Value)) :
    Action World Instance := do
  let _ ← (← Action.get).readInstance { cls } "__pydantic_validator__"
  complete cls schema
  let source := FieldSource.entries (Value.entries given)
  match ← checkRecordParts (checking cls schema []) schema source {} with
  | .error problems => refuseAll problems
  | .ok (ps, _) => ps.object cls schema (.set ps.names)

/-- A validated object of trusted values: nothing is refused, what is missing is left out, and the
values may tell themselves which fields were given. -/
def revive (cls : Nat) (schema : Schema) (given : List (String × Value)) :
    Action World Instance := do
  let told := (given.lookup "_fields_set").getD .null
  let given := given.filter fun e => e.1 ≠ "_fields_set"
  let vars ← filled true schema.fields given
  let extra := beyond schema.fields given
  let names := givenNames schema.fields given
  finished cls schema
    [("__dict__", dictOf vars), (givenSlot, if told.isNull then .set (names.map .text) else told),
      (extraSlot, if schema.extra = .allow then dictOf extra else .null), (hiddenSlot, .null)] extra

/-! ### Objects -/

/-- What has to be done after the fields of a new object are set can only be a function. -/
def checkStarted (w : World) (constructor : Nat) (o : Instance) : Except Fault Unit := do
  let rule := "__post_init__"
  if Assoc.contains (w.cls constructor).members rule then
    throw (w.uncallable (← w.readInstance o rule))

/-- The object that a class makes of arguments. Only constructors with fields take any. -/
def construct (cls : Nat) (given : Arguments) : Action World Instance := do
  let w ← Action.get
  w.checkMaking cls (0 < given.length)
  w.applyRule { cls } "__init__"
  match (w.owner? cls "__init__").map (·.1) with
  | none => return { cls }
  | some a => match (w.cls a).shape, (w.cls cls).schema? with
    | .fielded fields frozen, _ =>
      let args ← arguments (w.cls a) fields given
      let o ← changed cls (w.initialise fields frozen args)
      w.checkStarted a o
      return o
    | _, schema? =>
      if a = validator then
        let n := given.placedCount
        if 0 < n then Action.faulty (.surplusArguments "BaseModel.__init__()" 1 1 (n + 1))
        else match schema? with
          | some schema => validate cls schema (given.byName [])
          | none => return { cls }
      else if given.length = 0 then return { cls }
      else Action.faulty (.noArguments (w.cls cls).name)

def attributeName (key : Value) : Except Fault String :=
  match key with
  | .text name => .ok name
  | key => .error (.attributeNotText key.typeName)

/-- Makes an object of some values: by name if the constructor takes them, or else one attribute
after the other. -/
def create (cls : Nat) (values : Value) : Action World Value := do
  let w ← Action.get
  if w.takesFields cls then
    let given ← values.keywords w.view ((w.cls cls).label ++ "()")
    added (← construct cls (.named given))
  else
    let target ← added (← construct cls .none)
    (← values.mapping w.view).forM fun e => do setAttr target (← attributeName e.1) e.2
    return target

def callClass (cls : Nat) (args : List Value) : Action World Value := do
  added (← construct cls (.placed args))

end RecordSql.World
