import RecordSql.Where

/-! Sources: the mappings and objects that rows and updates take their values from. -/

namespace RecordSql.Source

/-- The value of a property, or null when the source has none. -/
def read (objects : Objects) (source : Value) (key : String) : Except Fault Value :=
  match source with
  | .dict es _ => .ok ((Value.lookup? es key).getD .null)
  | source => do
    source.checkClass objects
    source.attrOr objects key .null

/-- What is bound for a column of a row. -/
def cell (objects : Objects) (source : Value) (c : Column) : Except Error Value := do
  Column.stored objects (some c) (← (read objects source c.propertyKey).mapError .fault)

def bound (objects : Objects) (columns : List Column) (source : Value) :
    Except Error (List Value) :=
  columns.mapM (cell objects source)

def variableKeys (objects : Objects) (source : Value) : Except Fault (List Value) :=
  match source.attr objects "__dict__" with
  | .ok (.dict es _) => .ok (es.map (·.1))
  | .ok held => held.called objects "keys"
  | .error f => .error (if f.kind = .attr then .noVariables else f)

/-- The keys of a mapping, or what an object says was set on it, or else the attributes it has. -/
def presentKeys (objects : Objects) (source : Value) : Action Feeds (List Value) :=
  match source with
  | .dict es _ => pure (es.map (·.1))
  | source => do
    match ← read objects source "model_fields_set" with
    | .null => variableKeys objects source
    | fields => fields.members objects

end RecordSql.Source
