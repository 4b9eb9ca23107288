import RecordSql.Fault.Message
import RecordSql.Objects

/-! Errors: what a registration, a statement or a mapping can end in. -/

namespace RecordSql

/-- The texts that a registration or a builder must be given. -/
inductive Subject where
  | columnKey
  | columnName
  | relationKey
  | selfReference
  | targetTable
  | targetColumn
  | tableName
  | tableAlias
  deriving DecidableEq

/-- The definitions of which an entity holds one per name. -/
inductive Definition where
  | propertyKey
  | column
  | relation
  deriving DecidableEq

/-- The two counts of a selection. -/
inductive CountClause where
  | limit
  | offset
  deriving DecidableEq

/-- The two directions of a transformer: towards the stored value, and back. -/
inductive Direction where
  | store
  | load
  deriving DecidableEq

/-- What an operation failed for. -/
inductive Error where
  | empty (subject : Subject)
  | badRelationKind (kind : Value)
  | missingTarget
  /-- A relation target that is refused for the given fault. -/
  | badTarget (cause : Fault)
  | noColumns (table : String)
  | duplicate (definition : Definition) (key : String) (entity : Value)
  | badJoinType (given : Value)
  | badDirection (given : Value)
  | severalOperators (key : Value) (tokens : List String)
  | unknownColumn (key : Value) (table : String)
  | notRegistered (entity : Value)
  | noRelation (table : String) (relation : Value)
  | unsupported (token : Value)
  | noValues
  | emptyBatch
  | allExcluded (table : String)
  | nothingToSet (table : String)
  | notCount (clause : CountClause) (given : Value)
  | notSequence (reference : String)
  /-- A refusal by an operator handler of the caller. -/
  | refused (message : String)
  | transformation (column : String) (direction : Direction) (cause : Fault)
  | construction (cls : String) (cause : Fault)
  /-- A fault that reaches the caller as it is. -/
  | fault (fault : Fault)

/-- The families of errors. All but the last are the library's own. -/
inductive ErrorFamily where
  | validation
  | duplicate
  | notFound
  | relation
  | operator
  | build
  | transformation
  | construction
  | foreign (kind : FaultKind)
  deriving DecidableEq

def Subject.label : Subject → String
  | columnKey => "Column property key"
  | columnName => "Column name"
  | relationKey => "Relation property key"
  | selfReference => "Relation self reference"
  | targetTable => "Relation target table"
  | targetColumn => "Relation target column"
  | tableName => "Table name"
  | tableAlias => "Alias"

def Definition.label : Definition → String
  | propertyKey => "property key"
  | column => "column"
  | relation => "relation"

def CountClause.keyword : CountClause → String
  | limit => "LIMIT"
  | offset => "OFFSET"

def Direction.label : Direction → String
  | store => "to"
  | load => "from"

namespace Error

def family : Error → ErrorFamily
  | empty _ | badRelationKind _ | missingTarget | badTarget _ | noColumns _ | badJoinType _
  | badDirection _ | severalOperators .. | unknownColumn .. => .validation
  | duplicate .. => .duplicate
  | notRegistered _ => .notFound
  | noRelation .. => .relation
  | unsupported _ => .operator
  | noValues | emptyBatch | allExcluded _ | nothingToSet _ | notCount .. | notSequence _
  | refused _ => .build
  | transformation .. => .transformation
  | construction .. => .construction
  | fault f => .foreign f.kind

def cause? : Error → Option Fault
  | badTarget f | transformation _ _ f | construction _ f => some f
  | _ => none

/-- The text of an error; a value in it may have none. -/
def message (objects : Objects) : Error → Except Fault String
  | empty subject => .ok (subject.label ++ " cannot be empty")
  | badRelationKind kind => do return "Invalid relation type: " ++ (← kind.written objects)
  | missingTarget => .ok "Relation target class cannot be None"
  | badTarget cause => cause.message objects.shown
  | noColumns table => .ok ("Table '" ++ table ++ "' must have at least one column")
  | duplicate definition key entity => do
    return "Duplicate " ++ definition.label ++ " '" ++ key ++ "' on entity " ++
      (← (← entity.entityName objects).written objects)
  | badJoinType given => do return "Invalid join type: " ++ (← given.shown objects)
  | badDirection given => do return "Invalid sort direction: " ++ (← given.shown objects)
  | severalOperators key tokens => do
    return "Condition on '" ++ (← key.written objects) ++ "' has several operators " ++
      (← (Value.list (tokens.map .text)).shown objects) ++
      "; only one operator per property is allowed"
  | unknownColumn key table => do
    return "'" ++ (← key.written objects) ++ "' is not a column of table '" ++ table ++ "'"
  | notRegistered entity => do
    return "Metadata not found for entity: " ++
      (← (← entity.entityName objects).written objects)
  | noRelation table relation => do
    return "Relation '" ++ (← relation.written objects) ++ "' is not defined on table '" ++
      table ++ "'"
  | unsupported token => do return "Unsupported operator: " ++ (← token.written objects)
  | noValues => .ok "No values supplied for INSERT; call values() or values_many()"
  | emptyBatch => .ok "Cannot build a batch INSERT from an empty sequence"
  | allExcluded table => .ok ("Every column of '" ++ table ++ "' is excluded from INSERT")
  | nothingToSet table =>
    .ok ("No updatable columns supplied for UPDATE on '" ++ table ++ "'")
  | notCount clause given => do
    return clause.keyword ++ " must be a non-negative integer, got " ++ (← given.shown objects)
  | notSequence reference =>
    .ok ("$in operand for '" ++ reference ++ "' must be a sequence of values")
  | refused message => .ok message
  | transformation column direction cause => do
    return "Transformer '" ++ direction.label ++ "' failed for column '" ++ column ++ "': " ++
      (← cause.message objects.shown)
  | construction cls cause => do
    return "Cannot construct " ++ cls ++ ": " ++ (← cause.message objects.shown)
  | fault f => f.message objects.shown

/-- An error as it reaches the caller. One whose text fails gives way to the fault in it. -/
def settled (objects : Objects) (e : Error) : Error :=
  match e.message objects with
  | .ok _ => e
  | .error f => .fault f

end Error

end RecordSql
