import RecordSql.Statement

/-! Operators: what the tokens of conditions stand for. -/

namespace RecordSql

/-- The handlers of tokens, in the order of their first registration. -/
abbrev Operators := Assoc String Handler

namespace Handler

def comparison (symbol : String) : Handler := fun _ column operand bind => do
  return ⟨column ++ " " ++ symbol ++ " ?", [← bind operand]⟩

/-- Matches the column with a pattern, which is bound as it is. -/
def like : Handler := fun _ column operand _ => pure ⟨column ++ " LIKE ?", [operand]⟩

def null : Handler := fun objects column operand _ => do
  return ⟨column ++ (if ← operand.truth objects then " IS NULL" else " IS NOT NULL"), []⟩

/-- Looks the column up among the items of the operand, which is no text; nothing is among no items.
-/
def member : Handler := fun objects column operand bind =>
  match operand with
  | .text _ | .bytes _ => Action.fail (.notSequence column)
  | operand => do
    operand.checkKind objects
    if ← operand.isIterable objects then
      let items ← operand.elements objects
      if items.isEmpty then return ⟨"1 = 0", []⟩
      else
        let params ← (items.mapM bind : Except Error (List Value))
        return ⟨column ++ " IN (" ++ placeholders items.length ++ ")", params⟩
    else Action.fail (.notSequence column)

end Handler

namespace Operators

/-- The operators of every new world. -/
def builtin : Operators :=
  [("$eq", Handler.comparison "="), ("$gt", Handler.comparison ">"),
    ("$lt", Handler.comparison "<"), ("$gte", Handler.comparison ">="),
    ("$lte", Handler.comparison "<="),
    ("$not", Handler.comparison "!="), ("$like", Handler.like), ("$null", Handler.null),
    ("$in", Handler.member)]

def isToken (s : String) : Bool := s.toList.head? = some '$'

def register (objects : Objects) (ops : Operators) (token : Value) (h : Handler) :
    Except Fault Operators :=
  match token with
  | .text s => if isToken s then .ok (Assoc.put ops s h) else .error (.badToken token)
  | .bytes _ => .error .tokenNotText
  | v => v.called objects "startswith"

def find? (ops : Operators) (token : Value) : Option Handler :=
  token.text?.bind (Assoc.get? ops ·)

def handler (objects : Objects) (ops : Operators) (token : Value) : Except Error Handler := do
  let _ ← (token.key objects).mapError .fault
  match ops.find? token with
  | some h => return h
  | none => throw (.unsupported token)

def has (objects : Objects) (ops : Operators) (token : Value) : Except Fault Bool := do
  let _ ← token.key objects
  return (ops.find? token).isSome

def tokens (ops : Operators) : List String := Assoc.keys ops

end Operators

end RecordSql
