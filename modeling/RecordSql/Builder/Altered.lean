import RecordSql.Builder.Part

/-! Builders with parts that were put or removed by name, and the statements that are built of what
is left. A part is looked at when it is needed, and in the order of the plain builders. -/

namespace RecordSql

/-- A builder by its kind and its parts. Parts are held under texts, unless others were put there
all at once. -/
structure Altered where
  kind : BuilderKind
  parts : List (Value × Part)

namespace Altered

def of (b : Builder) : Altered := ⟨b.kind, b.parts.map fun e => (.text e.1, e.2)⟩

/-! ### Parts -/

def find? (b : Altered) (name : String) : Option Part :=
  (b.parts.find? fun e => e.1.text? = some name).map (·.2)

def part (b : Altered) (name : String) : Except Fault Part :=
  (b.find? name).elim (.error (.noAttribute b.kind.typeName name)) .ok

def value (b : Altered) (name : String) : Except Fault Value := return (← b.part name).toValue

def entity (b : Altered) : Except Fault Value := b.value "_entity"

def put (b : Altered) (name : String) (p : Part) : Altered :=
  let isThere (e : Value × Part) : Bool := e.1.text? = some name
  if b.parts.any isThere then
    { b with parts := b.parts.map fun e => if isThere e then (e.1, p) else e }
  else { b with parts := b.parts ++ [(.text name, p)] }

/-- Removes the part under a name. -/
def erase (b : Altered) (name : String) : Altered :=
  { b with parts := b.parts.filter fun e => e.1.text? ≠ some name }

def toValue (b : Altered) : Value := .dict (b.parts.map fun e => (e.1, e.2.toValue))

/-- A part in the place of a function cannot be called. -/
def checkFunction (objects : Objects) (b : Altered) (name : String) : Except Fault Unit :=
  match b.find? name with
  | none => .ok ()
  | some p => .error (p.uncallable objects)

/-! ### What statements are built of -/

def table (cs : Contexts) (b : Altered) : Except Error Table := do
  (b.checkFunction cs.objects "_table").mapError .fault
  let tableOf ← (← (b.part "_registry").mapError .fault).asTables.tables cs
  tableOf (← b.entity.mapError .fault)

/-- The predicate of the conditions, given how columns are named. -/
def compile (cs : Contexts) (b : Altered) (t : Table)
    (mode : Except Fault (Except Error AliasMode)) (tableAlias : Value) :
    Action Feeds Statement := do
  let objects := cs.objects
  match (← b.part "_where_compiler").asCompiler with
  | .own (operators, config) =>
    let conditions ← b.value "_conditions"
    let mode ← mode
    Where.compileBy objects ⟨config.strict objects, operators.handlers cs⟩ t conditions mode
      tableAlias
  | .value v =>
    let found ← v.attr objects "compile"
    let _ ← b.value "_conditions"
    let _ ← mode
    Action.faulty (found.uncallable objects.rule)

/-- The predicate of the conditions, with columns named as the builder says. -/
def compileOwn (cs : Contexts) (b : Altered) (t : Table) : Action Feeds Statement :=
  b.compile cs t ((b.part "_alias_mode").map fun p => p.asMode cs.objects) .null

/-- A further predicate that is a value, and cannot be made. -/
def furtherOf (objects : Objects) : Value → Option OnClause
  | .null => none
  | v => some fun _ => .error (v.uncallable objects.rule)

/-- The join of a requested relation. -/
def expand (cs : Contexts) (b : Altered) (t : Table) (tableAlias : String)
    (request : OrValue JoinRequest) : Except Error Join := do
  let objects := cs.objects
  let read (v : Value) (name : String) : Except Error Value := (v.attr objects name).mapError .fault
  match (← (b.part "_join_expander").mapError .fault).asExpander with
  | .value v => (v.called objects "expand").mapError .fault
  | .own (tables, config) =>
    let x : Join.Expansion := ⟨tables.tables cs, config.separator objects, (cs .given).scope⟩
    match request with
    | .own r =>
      let joinType := r.joinType.elim (config.joinType objects) .ok
      Join.expandBy objects x t tableAlias r.relation joinType (.ok r.on)
    | .value v =>
      let joinType : Except Error JoinType := do
        let given ← read v "join_type"
        if ← (given.truth objects).mapError .fault then
          keywordOf objects JoinType.ofValue? given (.fault (.notMember given "JoinType"))
        else config.joinType objects
      Join.expandBy objects x t tableAlias (← read v "relation_name") joinType
        ((read v "on").map (furtherOf objects))

def eachRequest {α : Type} (objects : Objects) (b : Altered)
    (f : OrValue JoinRequest → Action Feeds α) : Action Feeds (List α) := do
  match (← b.part "_joins").asRequests with
  | .own l => l.mapM f
  | .value v => v.each objects fun v => f (.value v)

/-- The entries of the ordering, with the words for the directions. -/
def orderEntries (objects : Objects) (b : Altered) :
    Except Fault (List (Value × Except Fault String)) := do
  let word (v : Value) : Except Fault String := do (← v.attr objects "value").written objects
  match (← b.part "_order_by").asOrdering with
  | .own es => return (Assoc.values es).map fun e => match e.2 with
      | .own d => (e.1, .ok d.label)
      | .value v => (e.1, word v)
  | .value v =>
    if ← v.truth objects then return (← v.mapping objects).map fun e => (e.1, word e.2)
    else return []

/-- The text of a count; null is none. -/
def countText (objects : Objects) (b : Altered) (name : String) : Except Fault (Option String) := do
  match ← b.value name with
  | .null => return none
  | v => return some (← v.written objects)

/-- How many items a value has; what can be gone through once does not tell. -/
def sizeOf (objects : Objects) (v : Value) : Except Fault Nat :=
  match v with
  | .feed _ => .error (.lengthless v.typeName)
  | .object i c => do
    Value.apply objects i "__len__"
    throw (.lengthless c.name)
  | v => (v.items objects).map List.length

/-! ### Statements -/

def buildSelect (cs : Contexts) (b : Altered) : Action Feeds Statement := do
  let objects := cs.objects
  let t ← b.table cs
  let given ← b.value "_alias"
  let given := if ← given.truth objects then given else .text t.name
  let separator ← (← b.part "_config").asConfig.separator objects
  let tableAlias ← given.written objects
  let joins ← b.eachRequest objects fun r => Action.ofExcept (b.expand cs t tableAlias r)
  let conditions ← b.compile cs t (.ok (.ok .tableName)) given
  let ordering ← Select.orderClause objects t tableAlias (← b.orderEntries objects)
  let limit ← b.countText objects "_limit"
  let offset ← b.countText objects "_offset"
  let query := Statement.withWhere (Select.head t tableAlias separator joins) conditions ++
    ordering ++ Select.countClause .limit limit ++ Select.countClause .offset offset
  Action.report (.selectBuilt t.name joins.length conditions.params.length)
  return ⟨query, conditions.params⟩

def buildInsert (cs : Contexts) (b : Altered) : Action Feeds Statement := do
  let objects := cs.objects
  let rows ← b.value "_rows"
  if rows.isNull then Action.fail .noValues
  else if !(← rows.truth objects) then Action.fail .emptyBatch
  else
    let t ← b.table cs
    let columns ← Insert.columns objects t
    if columns.isEmpty then Action.fail (.allExcluded t.name)
    else
      let params ← rows.each objects fun row => Action.ofExcept (Source.bound objects columns row)
      let count ← sizeOf objects rows
      Action.report (.insertBuilt t.name count params.flatten.length)
      return ⟨Insert.text t columns count, params.flatten⟩

def buildUpdate (cs : Contexts) (b : Altered) : Action Feeds Statement := do
  let objects := cs.objects
  let t ← b.table cs
  let source ← b.value "_values"
  let assigned ← Update.assignments objects t source (← Update.supplied objects source)
  if assigned.isEmpty then Action.fail (.nothingToSet t.name)
  else Update.finish t assigned (← b.compileOwn cs t)

def buildDelete (cs : Contexts) (b : Altered) : Action Feeds Statement := do
  let t ← b.table cs
  Delete.finish t (← b.compileOwn cs t)

def build (cs : Contexts) (b : Altered) : Action Feeds Statement :=
  match b.kind with
  | .select => b.buildSelect cs
  | .insert => b.buildInsert cs
  | .update => b.buildUpdate cs
  | .delete => b.buildDelete cs

/-- The text of the statement under construction. -/
def describe (objects : Objects) (b : Altered) : Action Feeds String := do
  let relation : OrValue JoinRequest → Action Feeds Value
    | .own r => pure r.relation
    | .value v => Action.ofFault (v.attr objects "relation_name")
  let isSelect := b.kind = .select
  let relations ← if isSelect then b.eachRequest objects relation else pure []
  let label ← (← b.entity).entityLabel objects
  let joins ← if isSelect then do
      pure (", joins=" ++ (← (Value.list relations).shown objects))
    else pure ""
  return b.kind.typeName ++ "(" ++ label ++ joins ++ ")"

end Altered

end RecordSql
