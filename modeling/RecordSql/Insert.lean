import RecordSql.Source

/-! INSERT: one row or a batch of rows into the table of an entity. -/

namespace RecordSql

/-- An INSERT under construction: no rows yet, or the sources of its rows. -/
structure Insert where
  entity : Value
  rows : Option (List Value)

namespace Insert

def of (entity : Value) : Insert := ⟨entity, none⟩

def values (i : Insert) (source : Value) : Insert := { i with rows := some [source] }

/-- A batch of rows. -/
def valuesMany (i : Insert) (objects : Objects) (sources : Value) : Action Feeds Insert := do
  return { i with rows := some (← sources.elements objects) }

/-- The columns that a row is written to. -/
def columns (objects : Objects) (t : Table) : Except Fault (List Column) :=
  t.columns.filterM fun c => return !(← c.excludeFromInsert.truth objects)

def text (t : Table) (columns : List Column) (rows : Nat) : String :=
  let group := "(" ++ placeholders columns.length ++ ")"
  "INSERT INTO " ++ t.name ++ "(" ++ commaSeparated (columns.map (·.name)) ++ ") VALUES " ++
    commaSeparated (List.replicate rows group)

def build (i : Insert) (ctx : Context) : Action Feeds Statement := do
  match i.rows with
  | none => Action.fail .noValues
  | some [] => Action.fail .emptyBatch
  | some rows =>
    let t ← ctx.registry.table ctx.objects i.entity
    let columns ← columns ctx.objects t
    if columns.isEmpty then Action.fail (.allExcluded t.name)
    else
      let params ← (rows.mapM (Source.bound ctx.objects columns) :
        Except Error (List (List Value)))
      Action.report (.insertBuilt t.name rows.length params.flatten.length)
      return ⟨text t columns rows.length, params.flatten⟩

/-- The text of the statement under construction. -/
def describe (objects : Objects) (i : Insert) : Except Fault String := do
  return "InsertQueryBuilder(" ++ (← i.entity.entityLabel objects) ++ ")"

end Insert

end RecordSql
