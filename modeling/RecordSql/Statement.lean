import RecordSql.Config
import RecordSql.Feeds
import RecordSql.Registry
import RecordSql.Value.Calculation

/-! Statements: a text with placeholders and the values bound to them. -/

namespace RecordSql

/-- A statement, or a part of one. -/
structure Statement where
  query : String
  params : List Value

/-- One condition with the values it binds. -/
structure Fragment where
  condition : String
  params : List Value

/-- The conversion of a value into what is bound for it. -/
abbrev Binding := Value → Except Error Value

/-- What an operator makes of a column and an operand. -/
abbrev Handler := Objects → String → Value → Binding → Action Feeds Fragment

def placeholders (count : Nat) : String := commaSeparated (List.replicate count "?")

/-- How many placeholders a value asks for; fewer than none are none. -/
def placeholderCount (objects : Objects) : Value → Except Fault Nat
  | .bool b => .ok (if b then 1 else 0)
  | .int n => Value.repetitions .noRoom 1 n
  | .object i c => do
    Value.apply objects i "__index__"
    throw (.notCount c.name)
  | v => .error (.notCount v.typeName)

namespace Statement

def empty : Statement := ⟨"", []⟩

def withWhere (text : String) (conditions : Statement) : String :=
  if conditions.query = "" then text else text ++ " WHERE " ++ conditions.query

/-- Appends conditions to a text, both given as any values, if the conditions count as true. -/
def withWhereGiven (objects : Objects) (text conditions : Value) : Except Fault Value := do
  if ← conditions.truth objects then
    return .text ((← text.written objects) ++ " WHERE " ++ (← conditions.written objects))
  else return text

end Statement

end RecordSql
