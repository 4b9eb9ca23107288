import RecordSql.Where

/-! Mappers: the values of an entity's properties from the rows of a selection. -/

namespace RecordSql

/-- How rows of an entity are read. The keys of a row are those of the selection: a lead and the
name of the column. Null stands for the lead of the selection. -/
structure Mapper where
  entity : Value
  lead : Value
  config : Config

namespace Mapper

/-- The lead of the keys, by default the name of the table and the separator. -/
def leadFor (objects : Objects) (m : Mapper) (t : Table) : Except Fault String :=
  if m.lead.isNull then .ok (t.name ++ m.config.separator) else m.lead.written objects

def cell (objects : Objects) (lead : String) (row : Value) (c : Column) :
    Action Feeds (Option (String × Value)) := do
  let key := lead ++ c.name
  if ← row.holds objects key then
    let raw ← row.item key
    return some (c.propertyKey, ← c.loaded objects raw)
  else return none

/-- The values of the properties whose columns are in the row, in the order of the columns. -/
def extract (m : Mapper) (registry : Registry) (objects : Objects) (row : Value) :
    Action Feeds (List (String × Value)) := do
  let t ← registry.table objects m.entity
  let lead ← m.leadFor objects t
  let cells ← t.columns.mapM (cell objects lead row)
  return cells.filterMap id

end Mapper

end RecordSql
