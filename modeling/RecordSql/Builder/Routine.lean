import RecordSql.Builder.Step
import RecordSql.Record.TypeExpression

/-! What builders have of their class: what it says of itself, and the functions that all objects
have, which show, compare, name and describe a builder. -/

namespace RecordSql

namespace BuilderKind

/-! ### The class -/

/-- What the class says of its builders. -/
def description : BuilderKind → List String
  | select =>
    ["Fluent builder for SELECT statements.",
      "",
      "    Example:",
      "        sql, params = (",
      "            SelectQueryBuilder(Pet)",
      "            .where(\x7b\"id\": \x7b\"$gte\": 5\x7d\x7d)",
      "            .relation(\"reminders\")",
      "            .order_by(\"name\", \"ASC\")",
      "            .limit(10)",
      "            .build()",
      "        )",
      "    "]
  | insert =>
    ["Builder for INSERT statements.",
      "",
      "    ``values`` inserts one entity; ``values_many`` inserts a batch as a",
      "    multi-row ``VALUES (...), (...)`` list with one flat parameter tuple.",
      "    Columns flagged ``exclude_from_insert`` never appear.",
      "    "]
  | update =>
    ["Builder for UPDATE statements.",
      "",
      "    Only properties present in the partial update (and not flagged",
      "    ``exclude_from_update``) are written, in column registration order.",
      "    Without WHERE conditions the statement updates every row.",
      "    "]
  | delete => ["Builder for DELETE statements. No conditions deletes every row."]

def classRef (kind : BuilderKind) : ClassRef := .plain kind.typeName

def classValues (kind : BuilderKind) : Assoc String Value :=
  [("__doc__", .text ("\n".intercalate kind.description)),
    ("__module__", .text ((ClassRef.homes.lookup kind.typeName).getD "")), ("__slots__", .tuple []),
    ("__orig_bases__",
      .tuple [.member "_GenericAlias" "entity_sql.query.base.BaseQueryBuilder[~T]"]),
    ("__parameters__", .tuple [.member "TypeVar" "~T"]), ("_is_protocol", .bool false)]

/-- The functions of the class besides the methods that advance and finish statements. -/
def functions : List String :=
  ["__init__", "__repr__", "_table", "__class_getitem__", "__init_subclass__"]

def classAttribute? (kind : BuilderKind) (name : String) : Option Value :=
  let isMethod := (Assoc.get? kind.methods name).isSome || functions.contains name
  if isMethod then some (Routine.method.ofObject name kind.typeName "type")
  else (Assoc.get? kind.classValues name).or
    ((Routine.find? Routine.universal name).map fun r => r.ofObject name kind.typeName "type")

/-- The names of what a builder has of its class, the nearest ancestor first. -/
def classNames (kind : BuilderKind) : List String :=
  ["__module__", "__doc__", "__init__"] ++ Assoc.keys kind.methods ++
    (if kind = .select then ["__repr__"] else []) ++
    ["__orig_bases__", "__parameters__", "entity", "_table", "__repr__", "__dict__",
      "__weakref__", "__slots__", "_is_protocol", "__class_getitem__", "__init_subclass__",
      "__new__", "__hash__", "__str__", "__getattribute__", "__setattr__", "__delattr__", "__lt__",
      "__le__", "__eq__", "__ne__", "__gt__", "__ge__", "__reduce_ex__", "__reduce__",
      "__getstate__", "__subclasshook__", "__format__", "__sizeof__", "__dir__", "__class__"]

def showing : BuilderKind → String
  | select => "SelectQueryBuilder.__repr__()"
  | _ => "BaseQueryBuilder.__repr__()"

end BuilderKind

namespace Altered

/-! ### Attributes -/

def attr (b : Altered) (name : String) : Except Fault Value :=
  match name with
  | "__class__" => .ok (.cls b.kind.classRef)
  | "__dict__" => .ok b.toValue
  | "__weakref__" => .ok .null
  | "entity" => b.entity
  | name => match b.find? name with
    | some p => .ok p.toValue
    | none =>
      (b.kind.classAttribute? name).elim (.error (.noAttribute b.kind.typeName name)) .ok

def names (b : Altered) : List Value :=
  let own := b.parts.map (·.1)
  own ++ ((b.kind.classNames.eraseDups).filter fun name =>
    !own.any fun v => v.text? = some name).map .text

/-- The attribute that a value names. -/
def nameOf : Value → Except Fault String
  | .text name => .ok name
  | v => .error (.attributeNotText v.typeName)

/-! ### Copies -/

/-- The parts as a copy of the builder would take them; null if there are none. -/
def state (objects : Objects) (b : Altered) : Except Fault Value := do
  b.checkFunction objects "__getstate__"
  return if b.parts.isEmpty then .null else b.toValue

def hasSlots (objects : Objects) (b : Altered) : Except Fault Bool :=
  (b.find? "__slots__").elim (.ok false) fun p => p.toValue.truth objects

/-- How a copy is made, by the way of a number: in the older ways the class is made from the one of
all objects. -/
def reduced (objects : Objects) (b : Altered) (way : Int) : Except Fault Value := do
  if way < 2 then
    if ← b.hasSlots objects then throw .slotsUncopyable
  let state ← b.state objects
  let cls : Value := .cls b.kind.classRef
  let maker := Value.member "function" "<function at 0x>"
  if way < 2 then
    let start := [maker, .tuple [cls, .cls (.plain "object"), .null]]
    return .tuple (if state.isNull then start else start ++ [state])
  else return .tuple [maker, .tuple [cls], state, .null, .null]

/-- The number of a way of copying. -/
def wayOf (objects : Objects) (v : Value) : Except Fault Int :=
  match v.integer?, v with
  | some n, _ => if -0x80000000 ≤ n && n < 0x80000000 then .ok n else .error .integerRoom
  | none, .object i c => do
    Value.apply objects i "__index__"
    throw (.integerNeeded c.name)
  | none, v => .error (.integerNeeded v.typeName)

/-! ### Arguments -/

/-- How functions that are not written in the same language count their arguments. -/
inductive Count where
  | rule (needed : Nat)
  | pair
  | single
  | empty
  | any

/-- The functions that all objects have, by how they count their arguments. -/
def counts : List (Count × List String) :=
  [(.rule 0, ["__hash__", "__str__"]),
    (.rule 1, ["__delattr__", "__eq__", "__ge__", "__getattribute__", "__gt__", "__le__",
      "__lt__", "__ne__"]),
    (.pair, ["__setattr__"]), (.single, ["__format__", "__reduce_ex__"]),
    (.empty, ["__dir__", "__getstate__", "__init_subclass__", "__reduce__", "__sizeof__"])]

def Count.check (c : Count) (function : String) (given : Nat) : Except Fault Unit :=
  match c with
  | rule n => if given = n then .ok () else .error (.ruleArguments n given)
  | pair => if given = 2 then .ok () else .error (.wrongCount 2 given)
  | single => if given = 1 then .ok () else .error (.soleArgumentNeeded function given)
  | empty => if given = 0 then .ok () else .error (.noneTaken function given)
  | any => .ok ()

/-- How a function counts its arguments. -/
def countOf (name : String) : Count :=
  ((counts.find? fun e => e.2.contains name).map (·.1)).getD .any

/-! ### Functions -/

/-- The class for some types of its parts, of which there is one. -/
def withTypes (kind : BuilderKind) (types : Value) : Except Fault Value := do
  let l := match types with
    | .tuple l _ => l
    | v => [v]
  l.forM fun v => match v with
    | .text s => (TypeValue.termOf s).map fun _ => ()
    | _ => .ok ()
  if l.length = 1 then return .member "_GenericAlias" kind.classRef.label
  else throw (.partCount kind.classRef.label 1 l.length)

/-- The form in which a text asks for a builder: only the usual one is there. -/
def checkForm (kind : BuilderKind) : Value → Except Fault Unit
  | .text "" => .ok ()
  | .text _ => .error (.noForm kind.typeName)
  | .null => .error (.formNotText "None")
  | v => .error (.formNotText v.typeName)

def text (objects : Objects) : Step Value := do
  return .text (← drawing ((← current).describe objects))

/-- Calls a function of the class that is written in the same language. -/
def callFunction (cs : Contexts) (name : String) (args : List Value) : Step Value := do
  let objects := cs.objects
  let b ← current
  let check (p : Parameters) (function : String) : Step Unit :=
    Action.ofFault (p.check function 1 args.length)
  let checkMaking := check b.kind.makers (b.kind.typeName ++ ".__init__()")
  match name with
  | "__class__" =>
    checkMaking
    let _ ← Action.ofExcept ((args[4]?.mapM (AliasMode.given objects)))
    return .opaquely b.kind.typeName
  | "__init__" =>
    checkMaking
    remake objects args
    return .null
  | "__repr__" =>
    check (.all []) b.kind.showing
    text objects
  | "_table" =>
    check (.all []) "BaseQueryBuilder._table()"
    let _ ← b.table cs
    return .opaquely "TableMetadata"
  | "__class_getitem__" =>
    check (.all ["params"]) "Generic.__class_getitem__()"
    withTypes b.kind (args.headD .null)
  | name => Action.faulty (.noAttribute b.kind.typeName name)

/-- Calls a function that all objects have. -/
def callRoutine (cs : Contexts) (name : String) (args : List Value) : Step Value := do
  let objects := cs.objects
  let b ← current
  (countOf name).check (b.kind.typeName ++ "." ++ name) args.length
  match name, args with
  | "__str__", _ => text objects
  | "__format__", [form] =>
    checkForm b.kind form
    text objects
  | "__getattribute__", [v] => Action.ofFault (nameOf v >>= b.attr)
  | "__setattr__", [v, w] =>
    setAttribute (← nameOf v) w
    return .null
  | "__delattr__", [v] =>
    deleteAttribute (← nameOf v)
    return .null
  | "__dir__", _ => return .list b.names
  | "__sizeof__", _ => return .int 24
  | "__getstate__", _ => Action.ofFault (b.state objects)
  | "__reduce__", _ => Action.ofFault (b.reduced objects 0)
  | "__reduce_ex__", [v] => do Action.ofFault (b.reduced objects (← wayOf objects v))
  | "__init_subclass__", _ => return .null
  | "__new__", [] => Action.faulty .classMissing
  | "__new__", v :: _ => Action.faulty (.makingClass v.typeName)
  | "__hash__", _ => return .int 0
  | _, _ => return .member "NotImplementedType" "NotImplemented"

end Altered

end RecordSql
