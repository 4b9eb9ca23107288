import RecordSql.Where

/-! Joins: what a relation adds to a selection. -/

namespace RecordSql

/-- A further predicate of a join, made from the name of the joined table; the empty text adds none.
-/
abbrev OnClause := String → Except Fault String

structure JoinRequest where
  relation : Value
  joinType : Option JoinType
  on : Option OnClause

/-- The selected columns and the clause of one join. -/
structure Join where
  columns : List String
  clause : String

/-- The columns of a table under the names `output ++ separator ++ column`. -/
def project (t : Table) (source output separator : String) : List String :=
  t.columns.map fun c => source ++ "." ++ c.name ++ " AS " ++ output ++ separator ++ c.name

namespace Join

/-- The predicate of a join, with the further one behind it. -/
def condition (tableAlias : String) (r : Relation) (extra : String) : String :=
  let equality :=
    tableAlias ++ "." ++ r.selfReference ++ " = " ++ r.targetTable ++ "." ++ r.targetColumn
  if extra = "" then equality else equality ++ " AND " ++ extra

/-- The further predicate. -/
def extra (on : Option OnClause) (r : Relation) : Except Error String :=
  match on with
  | none => .ok ""
  | some f => (f r.targetTable).mapError .fault

/-- What relations are expanded by: the tables of entities, the separator in the names of columns,
and the names that resolvers look up. What is looked at may not be there. -/
structure Expansion where
  tables : Except Error (Value → Except Error Table)
  separator : Except Error String
  scope : Scope

def expansion (ctx : Context) (config : Config) : Expansion :=
  ⟨.ok (ctx.registry.table ctx.objects), .ok config.separator, ctx.scope⟩

/-- Expands a relation of a table. The relation must be known, and its target registered, before the
join type and the further predicate are looked at. -/
def expandBy (objects : Objects) (x : Expansion) (t : Table) (tableAlias : String)
    (relation : Value) (joinType : Except Error JoinType) (on : Except Error (Option OnClause)) :
    Except Error Join := do
  match ← (t.relation? objects relation).mapError .fault with
  | none => throw (.noRelation t.name relation)
  | some r =>
    let tables ← x.tables
    let target ← tables (← (r.target.resolve x.scope).mapError .fault)
    let separator ← x.separator
    let joinType ← joinType
    let extra ← extra (← on) r
    return {
      columns := project target r.targetTable r.propertyKey separator
      clause := joinType.keyword ++ " " ++ r.targetTable ++ " ON " ++ condition tableAlias r extra }

/-- As `expandBy`, by a context and a configuration. -/
def expandWith (ctx : Context) (config : Config) (t : Table) (tableAlias : String)
    (relation : Value) (joinType : Except Error JoinType) (on : Option OnClause) :
    Except Error Join :=
  expandBy ctx.objects (expansion ctx config) t tableAlias relation joinType (.ok on)

def expand (ctx : Context) (config : Config) (t : Table) (tableAlias : String)
    (request : JoinRequest) : Except Error Join :=
  expandWith ctx config t tableAlias request.relation (.ok (request.joinType.getD config.joinType))
    request.on

/-- A join type given as a value: nothing stands for the configured one. -/
def typeGiven (objects : Objects) (config : Config) (v : Value) : Except Error JoinType := do
  if !(← (v.truth objects).mapError .fault) then return config.joinType
  else keywordOf objects JoinType.ofValue? v (.fault (.notMember v "JoinType"))

end Join

end RecordSql
