import RecordSql.Condition

/-! Condition sets compiled into predicates.

Every entry becomes one predicate, in order, joined by `AND`. A key that is no property of the table
is taken as the name of a column, with a warning, unless the configuration is strict. -/

namespace RecordSql

/-- What statements are built from: the tables, the operators, the objects that values refer to and
the names that resolvers look up. -/
structure Context where
  registry : Registry
  operators : Operators
  objects : Objects
  scope : Scope

namespace Where

/-- The alias of a table: its name unless another one is given. -/
def aliasOf (objects : Objects) (table : Table) (tableAlias : Value) : Except Fault String := do
  if ← tableAlias.truth objects then tableAlias.written objects else return table.name

/-- How columns are named: the text in front of every column. -/
def qualifier (objects : Objects) (mode : AliasMode) (table : Table) (tableAlias : Value) :
    Except Fault String :=
  match mode with
  | .none => .ok ""
  | .tableName => (aliasOf objects table tableAlias).map (· ++ ".")

/-- How conditions are read: whether doubtful ones are errors, and the handlers of tokens. What is
looked at may not be there. -/
structure Reading where
  strict : Except Fault Bool
  handler : Value → Except Error Handler

def reading (ctx : Context) (config : Config) : Reading :=
  ⟨.ok config.strict, ctx.operators.handler ctx.objects⟩

/-- Looks a key up; one that is no property is refused or reported. -/
def columnFor (objects : Objects) (r : Reading) (table : Table) (key : Value) :
    Action Feeds (Option Column) := do
  match ← table.column? objects key with
  | some c => return some c
  | none =>
    if ← r.strict then Action.fail (.unknownColumn key table.name)
    else
      Action.report (.verbatimKey key table.name)
      return none

def columnName (objects : Objects) (column : Option Column) (key : Value) : Except Fault String :=
  match column with
  | some c => .ok c.name
  | none => key.written objects

/-- The predicate of one entry. -/
def fragment (objects : Objects) (r : Reading) (table : Table) (lead : String)
    (entry : Value × Value) : Action Feeds Fragment := do
  let column ← columnFor objects r table entry.1
  let condition ← Condition.ofValue objects r.strict entry.1 entry.2
  let reference := lead ++ (← columnName objects column entry.1)
  let bind : Binding := Column.stored objects column
  match condition with
  | .literal v => return ⟨reference ++ " = ?", [← bind v]⟩
  | .operator token operand =>
    let handle ← r.handler token
    handle objects reference operand bind

def joined (fragments : List Fragment) : Statement :=
  ⟨" AND ".intercalate (fragments.map (·.condition)), fragments.flatMap (·.params)⟩

/-- The predicate of a condition set. The alias mode is looked at only if there are conditions. -/
def compileBy (objects : Objects) (r : Reading) (table : Table) (conditions : Value)
    (mode : Except Error AliasMode) (tableAlias : Value) : Action Feeds Statement := do
  if !(← conditions.truth objects) then return .empty
  else
    let lead ← qualifier objects (← mode) table tableAlias
    let entries ← conditions.mapping objects
    return joined (← entries.mapM (fragment objects r table lead))

/-- As `compileBy`, by a context and a configuration. -/
def compile (ctx : Context) (config : Config) (table : Table) (conditions : Value)
    (mode : AliasMode) (tableAlias : Value) : Action Feeds Statement :=
  compileBy ctx.objects (reading ctx config) table conditions (.ok mode) tableAlias

/-- As `compile`, with the alias mode given as a value. -/
def compileGiven (ctx : Context) (config : Config) (table : Table)
    (conditions mode tableAlias : Value) : Action Feeds Statement :=
  compileBy ctx.objects (reading ctx config) table conditions (AliasMode.given ctx.objects mode)
    tableAlias

end Where

end RecordSql
