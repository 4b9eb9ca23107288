import RecordSql.Where

/-! DELETE: the rows that meet the conditions, or all rows. -/

namespace RecordSql

structure Delete where
  entity : Value
  config : Config
  mode : AliasMode
  conditions : Value

namespace Delete

def of (entity : Value) (config : Config) (mode : AliasMode) : Delete :=
  ⟨entity, config, mode, .null⟩

def where_ (d : Delete) (conditions : Value) : Delete := { d with conditions }

def finish (t : Table) (conditions : Statement) : Action Feeds Statement := do
  Action.report (.deleteBuilt t.name conditions.params.length)
  return ⟨Statement.withWhere ("DELETE FROM " ++ t.name) conditions, conditions.params⟩

def build (d : Delete) (ctx : Context) : Action Feeds Statement := do
  let t ← ctx.registry.table ctx.objects d.entity
  finish t (← Where.compile ctx d.config t d.conditions d.mode .null)

/-- The text of the statement under construction. -/
def describe (objects : Objects) (d : Delete) : Except Fault String := do
  return "DeleteQueryBuilder(" ++ (← d.entity.entityLabel objects) ++ ")"

end Delete

end RecordSql
