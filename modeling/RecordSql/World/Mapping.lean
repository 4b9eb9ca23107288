import RecordSql.Mapper
import RecordSql.World.Construction

/-! Mapping rows onto new objects, and the helpers of entities. -/

namespace RecordSql.World

/-! ### Assembly -/

def asConstruction {α : Type} (cls : Nat) (kinds : List FaultKind) (x : Action World α) :
    Action World α := do
  let name := ((← Action.get).cls cls).name
  x.mapError fun e => match e with
    | .fault f => if kinds.contains f.kind then .construction name f else .fault f
    | e => e

/-- A class of validated objects makes them of trusted values unless it hides the function for
that. -/
def checkReviving (w : World) (cls : Nat) (given : List (String × Value)) : Except Fault Unit := do
  let function := "model_construct"
  match w.member? cls function with
  | some (.routine ..) =>
    if (given.lookup "cls").isSome then
      throw (.repeatedArgument ("BaseModel." ++ function ++ "()") "cls")
    else w.checkMaking cls false
  | _ => throw ((← w.readClass w.view cls function).uncallable w.rules)

/-- A new object with the given attributes. Validated objects are made of them; others are made
without arguments first. -/
def assemble (cls : Nat) (values : List (String × Value)) : Action World Value := do
  let w ← Action.get
  match w.isValidated cls, (w.cls cls).schema? with
  | true, some schema => do
    w.checkReviving cls values
    added (← revive cls schema values)
  | _, _ => do
    let target ← added (← asConstruction cls [.type] (construct cls .none))
    values.forM fun e => asConstruction cls [.attr, .frozen] (setAttr target e.1 e.2)
    return target

/-! ### Rows -/

/-- How the rows of a class are read. -/
def mapper (w : World) (cls : Nat) (lead : Value) (config : Config) : Mapper :=
  ⟨.cls (w.ref cls), lead, config⟩

def extractRow (m : Mapper) (r : Nat) (row : Value) : Action World (List (String × Value)) := do
  let w ← Action.get
  drawing (m.extract (w.registry r) w.view row)

def mapRow (cls r : Nat) (lead : Value) (config : Config) (row : Value) : Action World Value := do
  let w ← Action.get
  assemble cls (← extractRow (w.mapper cls lead config) r row)

/-- The object of one of several rows, once those behind it are all that a feed has left. -/
def mapDrawn (cls r : Nat) (lead : Value) (config : Config) (rows : Value)
    (drawn : Value × List Value) : Action World Value := do
  drawing (rows.leave drawn.2)
  mapRow cls r lead config drawn.1

def mapRows (cls r : Nat) (lead : Value) (config : Config) (rows : Value) :
    Action World Value := do
  let w ← Action.get
  let items ← drawing (rows.upcoming w.view)
  return .list (← (Value.withRests items).mapM (mapDrawn cls r lead config rows))

/-! ### Helpers of entities -/

/-- A helper of a class can be called unless the class hides it. -/
def requireClassHelper (w : World) (c : Nat) (name : String) : Except Fault Unit := do
  let found ← w.readClass w.view c name
  match w.member? c name with
  | some (.routine ..) => return ()
  | _ => throw (found.uncallable w.rules)

def tableRegistry (w : World) (c : Nat) : Except Fault Nat :=
  w.usableRegistry w.view c "get_table"

/-- The object of a row, over the registry of the class. -/
def toModel (cls : Nat) (lead row : Value) : Action World Value := do
  let w ← Action.get
  w.requireClassHelper cls "to_model"
  mapRow cls (← w.tableRegistry cls) lead .usual row

/-- The objects of several rows, over the registry of the class. -/
def toModels (cls : Nat) (lead rows : Value) : Action World Value := do
  let w ← Action.get
  w.requireClassHelper cls "to_models"
  match ← w.registryOf w.view cls with
  | .inl r => mapRows cls r lead .usual rows
  | .inr v => do
    match ← drawing (rows.upcoming w.view) with
    | [] => return .list []
    | _ :: rest => do
      drawing (rows.leave rest)
      v.called w.view "get_table"

def helped (w : World) (target : Value) (name : String) : Except Fault Instance :=
  match target with
  | .object i _ => match w.object? i with
    | some o => (w.requireHelper o name).map fun _ => o
    | none => .error (.noAttribute "" name)
  | target => target.called w.view name

/-- The properties of an object that are columns of its table. -/
def toPlain (w : World) (target : Value) : Except Error (List (String × Value)) := do
  let o ← (w.helped target "to_plain").mapError .fault
  let r ← (w.tableRegistry o.cls).mapError .fault
  match w.tableIn? w.view o.cls r with
  | some t => (w.plainOf w.view t o).mapError .fault
  | none => throw (.notRegistered (.cls (w.ref o.cls)))

/-- A new object with the same column properties. -/
def clone (target : Value) : Action World Value := do
  let w ← Action.get
  let o ← w.helped target "clone"
  let copy ← added (← construct o.cls .none)
  let plain ← w.toPlain target
  plain.forM fun e => setAttr copy e.1 e.2
  return copy

end RecordSql.World
