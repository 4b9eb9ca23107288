import RecordSql.Objects

/-! Notices: what registrations and statements report while they run. -/

namespace RecordSql

inductive Level where
  | debug
  | warning
  deriving DecidableEq

/-- A report. Registrations of a final table are ignored; conditions on unknown columns and with
several operators are taken with a warning. Entities are reported by name. -/
inductive Notice where
  | columnIgnored (name key : Value)
  | relationIgnored (name key : Value)
  | tableIgnored (name : Value)
  | tableRegistered (table : String) (name : Value) (columns relations : Nat)
  | severalOperators (key : Value) (tokens : List String)
  | verbatimKey (key : Value) (table : String)
  | selectBuilt (table : String) (joins params : Nat)
  | insertBuilt (table : String) (rows params : Nat)
  | updateBuilt (table : String) (params : Nat)
  | deleteBuilt (table : String) (params : Nat)

namespace Notice

def level : Notice → Level
  | severalOperators .. | verbatimKey .. => .warning
  | _ => .debug

def message (objects : Objects) : Notice → Except Fault String
  | columnIgnored name key => do
    return "Table for " ++ (← name.told objects) ++ " already finalized; ignoring column " ++
      (← key.told objects)
  | relationIgnored name key => do
    return "Table for " ++ (← name.told objects) ++ " already finalized; ignoring relation " ++
      (← key.told objects)
  | tableIgnored name => do
    return "Table for " ++ (← name.told objects) ++ " already registered; ignoring"
  | tableRegistered table name columns relations => do
    return "Registered table '" ++ table ++ "' for " ++ (← name.told objects) ++ " (" ++
      toString columns ++ " columns, " ++ toString relations ++ " relations)"
  | severalOperators key tokens => do
    return "Condition on '" ++ (← key.told objects) ++ "' has several operators " ++
      (← (Value.list (tokens.map .text)).shown objects) ++ "; using '" ++ tokens.headD "" ++
      "' only"
  | verbatimKey key table => do
    return "'" ++ (← key.told objects) ++ "' is not a registered column of '" ++ table ++
      "'; using it verbatim"
  | selectBuilt table joins params => .ok ("Built SELECT for '" ++ table ++ "' (" ++
      toString joins ++ " joins, " ++ toString params ++ " params)")
  | insertBuilt table rows params => .ok ("Built INSERT for '" ++ table ++ "' (" ++
      toString rows ++ " rows, " ++ toString params ++ " params)")
  | updateBuilt table params =>
    .ok ("Built UPDATE for '" ++ table ++ "' (" ++ toString params ++ " params)")
  | deleteBuilt table params =>
    .ok ("Built DELETE for '" ++ table ++ "' (" ++ toString params ++ " params)")

end Notice

end RecordSql
