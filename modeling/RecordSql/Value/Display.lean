import RecordSql.Double.Text
import RecordSql.Fault
import RecordSql.Text.Quoted

/-! How values are written inside messages and statements. Nothing is written inside itself. The
text of a value can fail, since the object that it refers to may lack an attribute that its text
shows. Integers are written whatever their size; the limit on the digits that are written, which can
be set, is left aside. -/

namespace RecordSql

/-- What is being written: the collections and objects that a part lies in. -/
abbrev Running := List Reference

/-- How the objects that values refer to are written inside what is being written. -/
abbrev ObjectText := Running → Nat → Except Fault String

/-- Texts with a comma between each two. -/
def commaSeparated (l : List String) : String := ", ".intercalate l

namespace ClassRef

/-- A class as messages show it. The class of everything shows its name alone. -/
def shown : ClassRef → String
  | plain "Any" => "typing.Any"
  | c => "<class '" ++ c.label ++ "'>"

end ClassRef

namespace Value

/-- Whether a collection lies inside itself. -/
def isOpen (running : Running) (serial : Nat) : Bool := running.contains (.collection serial)

/-- What is being written inside a collection. -/
def opened (running : Running) (serial : Nat) : Running :=
  if serial = 0 then running else .collection serial :: running

mutual

def shownWith (w : ObjectText) (running : Running) : Value → Except Fault String
  | null => .ok "None"
  | bool true => .ok "True"
  | bool false => .ok "False"
  | int n => .ok (toString n)
  | float x => .ok (Double.Style.plain.text x)
  | text s => .ok (Text.quoted s)
  | bytes bs => .ok (Text.quotedBytes bs)
  | list l n =>
    if isOpen running n then .ok "[...]"
    else (shownItems w (opened running n) l).map fun ts => "[" ++ commaSeparated ts ++ "]"
  | tuple [v] n =>
    if isOpen running n then .ok "(...)"
    else (v.shownWith w (opened running n)).map fun t => "(" ++ t ++ ",)"
  | tuple l n =>
    if isOpen running n then .ok "(...)"
    else (shownItems w (opened running n) l).map fun ts => "(" ++ commaSeparated ts ++ ")"
  | set [] _ => .ok "set()"
  | set l n =>
    if isOpen running n then .ok "set(...)"
    else (shownItems w (opened running n) l).map fun ts => "\x7b" ++ commaSeparated ts ++ "\x7d"
  | fixedSet [] _ => .ok "frozenset()"
  | fixedSet l n =>
    if isOpen running n then .ok "frozenset(...)"
    else (shownItems w (opened running n) l).map fun ts =>
      "frozenset(\x7b" ++ commaSeparated ts ++ "\x7d)"
  | dict es n =>
    if isOpen running n then .ok "\x7b...\x7d"
    else (shownEntries w (opened running n) es).map fun ts =>
      "\x7b" ++ commaSeparated ts ++ "\x7d"
  | literal v n =>
    if isOpen running n then .ok "..."
    else (v.shownWith w (opened running n)).map fun t => "Literal(value=" ++ t ++ ")"
  | operator t v n =>
    if isOpen running n then .ok "..."
    else do
      let token ← t.shownWith w (opened running n)
      let operand ← v.shownWith w (opened running n)
      return "Operator(token=" ++ token ++ ", operand=" ++ operand ++ ")"
  | feed _ => .ok "<list_iterator object at 0x>"
  | object i _ => w running i
  | cls c => .ok c.shown
  | member _ shown => .ok shown

def shownItems (w : ObjectText) (running : Running) : List Value → Except Fault (List String)
  | [] => .ok []
  | v :: l => do return (← v.shownWith w running) :: (← shownItems w running l)

def shownEntries (w : ObjectText) (running : Running) :
    List (Value × Value) → Except Fault (List String)
  | [] => .ok []
  | (k, v) :: es => do
    let key ← k.shownWith w running
    return (key ++ ": " ++ (← v.shownWith w running)) :: (← shownEntries w running es)

end

end Value

end RecordSql
