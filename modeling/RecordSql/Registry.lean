import RecordSql.Action
import RecordSql.Holdings
import RecordSql.Metadata
import RecordSql.Text.Blank

/-! The registry: from entities to their tables.

Registration has two phases. Columns and relations are gathered as pending definitions of an entity;
naming the table makes them final. A final table never changes, and later registrations for it are
ignored. -/

namespace RecordSql

/-- The final tables in the order of their registration, and the pending definitions. -/
structure Registry where
  tables : Holdings Table
  pendingColumns : Holdings (List Column)
  pendingRelations : Holdings (List Relation)

/-- What a relation is given to lead to. -/
inductive TargetGiven where
  | target (t : Target)
  | resolver (f : Scope → Except Fault Value)
  | value (v : Value)

structure RelationGiven where
  kind : Value
  propertyKey : Value
  selfReference : Value
  targetTable : Value
  targetColumn : Value
  target : TargetGiven

structure ColumnGiven where
  propertyKey : Value
  name : Value
  transformer : Option Transformer
  excludeFromInsert : Value
  excludeFromUpdate : Value

def requireText (objects : Objects) (subject : Subject) (v : Value) : Except Error String :=
  match v with
  | .text s => if Text.isBlank s then .error (.empty subject) else .ok s
  | v => do
    (v.checkKind objects).mapError .fault
    throw (.empty subject)

def RelationKind.given (objects : Objects) (v : Value) : Except Error RelationKind :=
  match ofValue? v with
  | some kind => .ok kind
  | none => do
    (v.checkChoice objects).mapError .fault
    throw (.badRelationKind v)

namespace TargetGiven

def refusedFor (f : Fault) : Error := if f.kind = .type then .badTarget f else .fault f

/-- What is wrong with a value that is no target, or with its text. -/
def refusal (objects : Objects) (v : Value) : Error :=
  match v.shown objects with
  | .ok _ => .badTarget (.badTarget v)
  | .error f => refusedFor f

/-- Classes are targets themselves, and functions find their target later. So does an object that
can be called, but no such call succeeds. -/
def check (objects : Objects) : TargetGiven → Except Error Target
  | target t => .ok t
  | resolver f => .ok (.deferred f)
  | value (.cls c) => .ok (.direct (.cls c))
  | value .null => .error .missingTarget
  | value v => match v.checkKind objects with
    | .error f => .error (refusedFor f)
    | .ok () =>
      if v.isCallable objects.rule then
        .ok (.deferred fun _ => .error (v.uncallable objects.rule))
      else .error (refusal objects v)

end TargetGiven

namespace Registry

def empty : Registry := ⟨[], [], []⟩

instance : EmptyCollection Registry := ⟨empty⟩

def size (r : Registry) : Nat := r.tables.length

/-! ### Registration -/

/-- The definition that a column would repeat. -/
def clash? (pending : List Column) (key name : String) (entity : Value) : Option Error :=
  pending.findSome? fun c =>
    if c.propertyKey = key then some (.duplicate .propertyKey key entity)
    else if c.name = name then some (.duplicate .column name entity)
    else none

def pendingColumnsOf (r : Registry) (objects : Objects) (k : Key) : List Column :=
  (Holdings.get? objects r.pendingColumns k).getD []

def pendingRelationsOf (r : Registry) (objects : Objects) (k : Key) : List Relation :=
  (Holdings.get? objects r.pendingRelations k).getD []

def registerColumn (objects : Objects) (entity : Value) (c : ColumnGiven) :
    Action Registry Unit := do
  let k ← entity.key objects
  let r ← Action.get
  if Holdings.contains objects r.tables k then
    Action.report (.columnIgnored (← entity.entityName objects) c.propertyKey)
  else
    let key ← requireText objects .columnKey c.propertyKey
    let name ← requireText objects .columnName c.name
    match clash? (r.pendingColumnsOf objects k) key name entity with
    | some e => Action.fail e
    | none =>
      let column : Column := ⟨key, name, c.transformer, c.excludeFromInsert, c.excludeFromUpdate⟩
      let pending := r.pendingColumnsOf objects k ++ [column]
      Action.set { r with
        pendingColumns := Holdings.put objects r.pendingColumns k entity pending }

def registerRelation (objects : Objects) (entity : Value) (g : RelationGiven) :
    Action Registry Unit := do
  let k ← entity.key objects
  let r ← Action.get
  if Holdings.contains objects r.tables k then
    Action.report (.relationIgnored (← entity.entityName objects) g.propertyKey)
  else
    let kind ← RelationKind.given objects g.kind
    let key ← requireText objects .relationKey g.propertyKey
    let selfReference ← requireText objects .selfReference g.selfReference
    let targetTable ← requireText objects .targetTable g.targetTable
    let targetColumn ← requireText objects .targetColumn g.targetColumn
    let target ← g.target.check objects
    if (r.pendingRelationsOf objects k).any fun p => p.propertyKey = key then
      Action.fail (.duplicate .relation key entity)
    else
      let relation : Relation := ⟨kind, key, selfReference, targetTable, targetColumn, target⟩
      let pending := r.pendingRelationsOf objects k ++ [relation]
      Action.set { r with
        pendingRelations := Holdings.put objects r.pendingRelations k entity pending }

/-- Makes the pending definitions of an entity final, under the name of its table. -/
def registerTable (objects : Objects) (entity name : Value) : Action Registry Unit := do
  let k ← entity.key objects
  let r ← Action.get
  if Holdings.contains objects r.tables k then
    Action.report (.tableIgnored (← entity.entityName objects))
  else
    let name ← requireText objects .tableName name
    let columns := r.pendingColumnsOf objects k
    let relations := r.pendingRelationsOf objects k
    if columns.isEmpty then Action.fail (.noColumns name)
    else
      Action.set {
        tables := Holdings.put objects r.tables k entity ⟨entity, name, columns, relations⟩
        pendingColumns := Holdings.erase objects r.pendingColumns k
        pendingRelations := Holdings.erase objects r.pendingRelations k }
      let label ← entity.entityName objects
      Action.report (.tableRegistered name label columns.length relations.length)

/-- Forgets all definitions, final and pending ones. -/
def clear : Action Registry Unit := Action.set ∅

/-! ### Lookup -/

def tableAt? (r : Registry) (objects : Objects) (k : Key) : Option Table :=
  Holdings.get? objects r.tables k

def table (r : Registry) (objects : Objects) (entity : Value) : Except Error Table := do
  match r.tableAt? objects (← (entity.key objects).mapError .fault) with
  | some t => return t
  | none => throw (.notRegistered entity)

def hasTable (r : Registry) (objects : Objects) (entity : Value) : Except Fault Bool := do
  return (r.tableAt? objects (← entity.key objects)).isSome

def tableNamed? (r : Registry) (objects : Objects) (name : Value) :
    Except Fault (Option Table) :=
  name.sought objects (Holdings.values r.tables) (·.name)

def columnNamed? (r : Registry) (objects : Objects) (name key : Value) :
    Except Fault (Option Column) := do
  match ← r.tableNamed? objects name with
  | some t => t.column? objects key
  | none => return none

end Registry

end RecordSql
