import RecordSql.Error
import RecordSql.Text.Upper

/-! The words with which a statement is tuned: join types, directions of sorting, ways of naming
columns. -/

namespace RecordSql

inductive JoinType where
  | inner
  | left
  | right
  | full
  deriving DecidableEq

inductive SortDirection where
  | ascending
  | descending
  deriving DecidableEq

/-- How conditions name columns: bare, or behind the alias of the table. -/
inductive AliasMode where
  | none
  | tableName
  deriving DecidableEq

/-- A keyword that a caller gives: what a value stands for, if it does, or else an error. -/
def keywordOf {α : Type} (objects : Objects) (ofValue? : Value → Option α) (v : Value)
    (otherwise : Error) : Except Error α :=
  match ofValue? v with
  | some a => .ok a
  | none => do
    (v.checkChoice objects).mapError .fault
    throw otherwise

/-- The text that a caller gives a keyword in, in upper case; any other value stands for itself. -/
def upperValue : Value → Value
  | .text s => .text (Text.upperKeyword s)
  | v => v

namespace JoinType

def label : JoinType → String
  | inner => "INNER"
  | left => "LEFT"
  | right => "RIGHT"
  | full => "FULL"

/-- The words in front of the joined table. -/
def keyword : JoinType → String
  | full => "FULL OUTER JOIN"
  | t => t.label ++ " JOIN"

def ofValue? : Value → Option JoinType
  | .text "INNER" => some inner
  | .text "LEFT" => some left
  | .text "RIGHT" => some right
  | .text "FULL" => some full
  | _ => none

/-- A join type in any case; null leaves the choice open. -/
def given (objects : Objects) (v : Value) : Except Error (Option JoinType) :=
  match v with
  | .null => .ok none
  | v => do
    (v.checkKind objects).mapError .fault
    return some (← keywordOf objects ofValue? (upperValue v) (.badJoinType v))

end JoinType

namespace SortDirection

def label : SortDirection → String
  | ascending => "ASC"
  | descending => "DESC"

def ofValue? : Value → Option SortDirection
  | .text "ASC" => some ascending
  | .text "DESC" => some descending
  | _ => none

def given (objects : Objects) (v : Value) : Except Error SortDirection := do
  (v.checkKind objects).mapError .fault
  keywordOf objects ofValue? (upperValue v) (.badDirection v)

end SortDirection

namespace AliasMode

def label : AliasMode → String
  | none => "none"
  | tableName => "table_name"

def ofValue? : Value → Option AliasMode
  | .text "none" => some none
  | .text "table_name" => some tableName
  | _ => Option.none

/-- A way of naming columns. -/
def given (objects : Objects) (v : Value) : Except Error AliasMode :=
  keywordOf objects ofValue? v (.fault (.notMember v "AliasMode"))

end AliasMode

end RecordSql
