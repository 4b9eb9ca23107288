import RecordSql.Join

/-! SELECT: the columns of an entity's table and of its joined relations. -/

namespace RecordSql

/-- A SELECT under construction. Conditions and alias are null until they are set; the entries of
the ordering keep the place of their first request. -/
structure Select where
  entity : Value
  config : Config
  conditions : Value
  joins : List JoinRequest
  ordering : Assoc Key (Value × SortDirection)
  limit : Option Nat
  offset : Option Nat
  tableAlias : Value

namespace Select

def of (entity : Value) (config : Config) : Select :=
  ⟨entity, config, .null, [], [], none, none, .null⟩

/-! ### Settings -/

/-- The conditions, in place of earlier ones. -/
def where_ (s : Select) (conditions : Value) : Select := { s with conditions }

def join (s : Select) (objects : Objects) (relation joinType : Value) (on : Option OnClause) :
    Except Error Select := do
  return { s with joins := s.joins ++ [⟨relation, ← JoinType.given objects joinType, on⟩] }

def joinMany (s : Select) (objects : Objects) (relations : Value) : Action Feeds Select := do
  let names ← relations.elements objects
  return { s with joins := s.joins ++ names.map fun name => ⟨name, none, none⟩ }

/-- Orders by a property. -/
def orderBy (s : Select) (objects : Objects) (key direction : Value) : Except Error Select := do
  let direction ← SortDirection.given objects direction
  let k ← (key.key objects).mapError .fault
  let first := ((Assoc.get? s.ordering k).map (·.1)).getD key
  return { s with ordering := Assoc.put s.ordering k (first, direction) }

/-- A count is an integer that is not negative; truth values are none. -/
def count (objects : Objects) (clause : CountClause) (v : Value) : Except Error Nat :=
  match v with
  | .int (.ofNat n) => .ok n
  | v => do
    (v.checkKind objects).mapError .fault
    throw (.notCount clause v)

def setLimit (s : Select) (objects : Objects) (v : Value) : Except Error Select := do
  return { s with limit := some (← count objects .limit v) }

def setOffset (s : Select) (objects : Objects) (v : Value) : Except Error Select := do
  return { s with offset := some (← count objects .offset v) }

/-- The name of the table inside the statement. -/
def setAlias (s : Select) (objects : Objects) (v : Value) : Except Error Select := do
  if ← (v.truth objects).mapError .fault then return { s with tableAlias := v }
  else throw (.empty .tableAlias)

/-! ### Statement -/

/-- The statement up to its conditions: the columns of the table and of the joins, and the joins. -/
def head (t : Table) (tableAlias separator : String) (joins : List Join) : String :=
  let columns := project t tableAlias tableAlias separator ++ joins.flatMap (·.columns)
  let start := "SELECT " ++ commaSeparated columns ++ " FROM " ++ t.name ++ " " ++ tableAlias
  " ".intercalate (start :: joins.map (·.clause))

/-- One entry of the ordering: a property, and the word for its direction. -/
def orderEntry (objects : Objects) (t : Table) (tableAlias : String)
    (e : Value × Except Fault String) : Except Fault String := do
  let column ← Where.columnName objects (← t.column? objects e.1) e.1
  return tableAlias ++ "." ++ column ++ " " ++ (← e.2)

def orderClause (objects : Objects) (t : Table) (tableAlias : String) :
    List (Value × Except Fault String) → Except Fault String
  | [] => .ok ""
  | es => do
    return " ORDER BY " ++ commaSeparated (← es.mapM (orderEntry objects t tableAlias))

def countClause (clause : CountClause) : Option String → String
  | none => ""
  | some count => " " ++ clause.keyword ++ " " ++ count

/-- The statement, with counts of any size. -/
def build (s : Select) (ctx : Context) : Action Feeds Statement := do
  let t ← ctx.registry.table ctx.objects s.entity
  let given := if ← s.tableAlias.truth ctx.objects then s.tableAlias else .text t.name
  let tableAlias ← given.written ctx.objects
  let joins ← (s.joins.mapM (Join.expand ctx s.config t tableAlias) : Except Error (List Join))
  let conditions ← Where.compile ctx s.config t s.conditions .tableName given
  let ordering ← orderClause ctx.objects t tableAlias
    ((Assoc.values s.ordering).map fun e => (e.1, .ok e.2.label))
  let query := Statement.withWhere (head t tableAlias s.config.separator joins) conditions ++
    ordering ++ countClause .limit (s.limit.map toString) ++
    countClause .offset (s.offset.map toString)
  Action.report (.selectBuilt t.name joins.length conditions.params.length)
  return ⟨query, conditions.params⟩

/-- The text of the statement under construction. -/
def describe (objects : Objects) (s : Select) : Except Fault String := do
  let label ← s.entity.entityLabel objects
  let joins ← (Value.list (s.joins.map (·.relation))).shown objects
  return "SelectQueryBuilder(" ++ label ++ ", joins=" ++ joins ++ ")"

end Select

end RecordSql
