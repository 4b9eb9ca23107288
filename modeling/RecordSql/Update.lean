import RecordSql.Source

/-! UPDATE: the properties that a partial source supplies. -/

namespace RecordSql

/-- An UPDATE under construction. Null stands for no source and for no conditions. -/
structure Update where
  entity : Value
  config : Config
  mode : AliasMode
  source : Value
  conditions : Value

namespace Update

def of (entity : Value) (config : Config) (mode : AliasMode) : Update :=
  ⟨entity, config, mode, .null, .null⟩

def set (u : Update) (source : Value) : Update := { u with source }

def where_ (u : Update) (conditions : Value) : Update := { u with conditions }

/-- The assignment of a column, if it is supplied and not excluded, with the value that is bound. -/
def assignment (objects : Objects) (source : Value) (supplied : List Value) (c : Column) :
    Except Error (Option (Column × Value)) := do
  if ← (c.excludeFromUpdate.truth objects).mapError .fault then return none
  else if supplied.any fun k => k.text? = some c.propertyKey then
    return some (c, ← Source.cell objects source c)
  else return none

/-- The assignments of a source that supplies some keys, in the order of the columns. -/
def assignments (objects : Objects) (t : Table) (source : Value) (supplied : List Value) :
    Except Error (List (Column × Value)) := do
  return (← t.columns.mapM (assignment objects source supplied)).filterMap id

def supplied (objects : Objects) (source : Value) : Action Feeds (List Value) :=
  if source.isNull then pure [] else Source.presentKeys objects source

def finish (t : Table) (assigned : List (Column × Value)) (conditions : Statement) :
    Action Feeds Statement := do
  let set := commaSeparated (assigned.map fun e => e.1.name ++ " = ?")
  let params := assigned.map (·.2) ++ conditions.params
  Action.report (.updateBuilt t.name params.length)
  return ⟨Statement.withWhere ("UPDATE " ++ t.name ++ " SET " ++ set) conditions, params⟩

def build (u : Update) (ctx : Context) : Action Feeds Statement := do
  let t ← ctx.registry.table ctx.objects u.entity
  let assigned ← assignments ctx.objects t u.source (← supplied ctx.objects u.source)
  if assigned.isEmpty then Action.fail (.nothingToSet t.name)
  else finish t assigned (← Where.compile ctx u.config t u.conditions u.mode .null)

/-- The text of the statement under construction. -/
def describe (objects : Objects) (u : Update) : Except Fault String := do
  return "UpdateQueryBuilder(" ++ (← u.entity.entityLabel objects) ++ ")"

end Update

end RecordSql
