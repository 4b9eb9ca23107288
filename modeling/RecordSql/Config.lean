import RecordSql.Keyword
import RecordSql.Objects
import RecordSql.Text.CodePoint

/-! The configuration of statements and mappings, and how it is validated. -/

namespace RecordSql

/-- The join type of relations that name none, whether doubtful conditions are errors, and the text
between an alias and a column in the names of a selection. -/
structure Config where
  joinType : JoinType := .left
  strict : Bool := false
  separator : String := "_"
  separator_ne : separator ≠ "" := by decide

namespace Config

/-- The configuration where none is given. -/
def usual : Config := {}

/-- A truth value, from a number or one of the usual words in ASCII letters of any case. -/
def boolOfText (s : String) : Except Rejection Bool :=
  let word := s.map Char.toLower
  if ["0", "off", "f", "false", "n", "no"].contains word then .ok false
  else if ["1", "on", "t", "true", "y", "yes"].contains word then .ok true
  else .error (if Text.isWhole s then .boolText else .textCoding)

def boolOfInt : Int → Except Rejection Bool
  | 0 => .ok false
  | 1 => .ok true
  | _ => .error .boolText

def textOfBytes? (bs : List UInt8) : Option String :=
  (String.fromUTF8? ⟨bs.toArray⟩).map fun s => Text.ofChars s.toList

/-- Integers beyond sixty-four bits and numbers that are no integers count as other values; the
least integer of sixty-four bits does so as a floating-point number. -/
def boolOf : Value → Except Rejection Bool
  | .bool b => .ok b
  | .text s => boolOfText s
  | .bytes bs => match textOfBytes? bs with
    | some s => boolOfText s
    | none => .error .boolText
  | .int n =>
    if -0x8000000000000000 ≤ n && n < 0x8000000000000000 then boolOfInt n
    else .error .boolType
  | .float x => match x.toInt? with
    | some n => if n.natAbs < 0x8000000000000000 then boolOfInt n else .error .boolType
    | none => .error .boolType
  | _ => .error .boolType

def joinTypeOf (v : Value) : Except Rejection JoinType :=
  let word := match v with
    | .bytes bs => (textOfBytes? bs).elim v Value.text
    | v => v
  match JoinType.ofValue? word with
  | some t => .ok t
  | none => .error .notMember

def separatorOf (v : Value) : Except Rejection { s : String // s ≠ "" } :=
  let check (s : String) : Except Rejection { s : String // s ≠ "" } :=
    if h : s = "" then .error .value else .ok ⟨s, h⟩
  match v with
  | .text s => check s
  | .bytes bs => match textOfBytes? bs with
    | some s => check s
    | none => .error .textCoding
  | _ => .error .textType

def field {α : Type} (fields : List (String × Value)) (name : String) (absent : α)
    (read : Value → Except Rejection α) : Except (String × Rejection) α :=
  match fields.lookup name with
  | none => .ok absent
  | some v => (read v).mapError fun why => (name, why)

def problem? {α : Type} : Except (String × Rejection) α → List (String × Rejection)
  | .ok _ => []
  | .error p => [p]

/-- The configuration of some fields; all refused fields are told. Other fields are ignored. -/
def ofFields (objects : Objects) (given : Value) : Except Fault Config := do
  let fields ← given.keywords objects "entity_sql.core.config.CompilerConfig()"
  let joinType := field fields "default_join_type" JoinType.left joinTypeOf
  let strict := field fields "strict_conditions" false boolOf
  let separator := field fields "column_alias_separator" ⟨"_", by decide⟩ separatorOf
  match joinType, strict, separator with
  | .ok joinType, .ok strict, .ok ⟨separator, h⟩ => .ok ⟨joinType, strict, separator, h⟩
  | _, _, _ => .error (.rejected (problem? joinType ++ problem? strict ++ problem? separator))

end Config

end RecordSql
