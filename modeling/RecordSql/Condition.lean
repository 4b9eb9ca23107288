import RecordSql.Operators
import RecordSql.Parameters

/-! Conditions: what a column is compared with. -/

namespace RecordSql

/-- Equality with a value, or an operator with its operand. -/
inductive Condition where
  | literal (v : Value)
  | operator (token operand : Value)

namespace Condition

/-- The entries of a mapping whose keys are tokens. -/
def operatorEntries (objects : Objects) :
    List (Value × Value) → Except Fault (List (String × Value))
  | [] => .ok []
  | (.text s, v) :: es => do
    let others ← operatorEntries objects es
    return if Operators.isToken s then (s, v) :: others else others
  | (k, _) :: es => do
    k.checkKind objects
    operatorEntries objects es

/-- The condition that a value of a condition set stands for. A mapping with tokens among its keys
is an operator: its first one, and more than one are doubtful, which may be an error. -/
def ofValue (objects : Objects) (strict : Except Fault Bool) (key v : Value) :
    Action Feeds Condition :=
  match v with
  | .literal v _ => pure (literal v)
  | .operator token operand _ => pure (operator token operand)
  | .dict es _ => do
    match ← operatorEntries objects es with
    | [] => return literal v
    | [(token, operand)] => return operator (.text token) operand
    | (token, operand) :: others =>
      let tokens := token :: others.map (·.1)
      if ← strict then Action.fail (.severalOperators key tokens)
      else
        Action.report (.severalOperators key tokens)
        return operator (.text token) operand
  | v => do
    v.checkKind objects
    v.checkClass objects
    return literal v

def toValue : Condition → Value
  | literal v => .literal v
  | operator token operand => .operator token operand

end Condition

/-! ### Shorthands -/

/-- The functions that spell a condition with an operator of every new world. -/
inductive Shorthand where
  | eq
  | gt
  | lt
  | gte
  | lte
  | not
  | like
  | isNull
  | isIn
  deriving DecidableEq

namespace Shorthand

def token : Shorthand → String
  | eq => "$eq"
  | gt => "$gt"
  | lt => "$lt"
  | gte => "$gte"
  | lte => "$lte"
  | not => "$not"
  | like => "$like"
  | isNull => "$null"
  | isIn => "$in"

/-- The condition of an operand; the items to look among are gathered at once. -/
def apply (objects : Objects) (h : Shorthand) (operand : Value) : Action Feeds Value :=
  match h with
  | isIn => do return .operator (.text h.token) (.list (← operand.elements objects))
  | h => pure (.operator (.text h.token) operand)

/-- The name under which faults are reported. -/
def label : Shorthand → String
  | eq => "eq()"
  | gt => "gt()"
  | lt => "lt()"
  | gte => "gte()"
  | lte => "lte()"
  | not => "not_()"
  | like => "like()"
  | isNull => "is_null()"
  | isIn => "in_()"

def parameters : Shorthand → Parameters
  | like => .all ["pattern"]
  | isNull => ⟨["flag"], 0⟩
  | isIn => .all ["values"]
  | _ => .all ["value"]

/-- The condition of some arguments. Without one, the column is to be null. -/
def call (objects : Objects) (h : Shorthand) (args : List Value) : Action Feeds Value := do
  h.parameters.check h.label 0 args.length
  h.apply objects (args.headD (.bool true))

end Shorthand

end RecordSql
