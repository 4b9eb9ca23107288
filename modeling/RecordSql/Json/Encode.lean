import RecordSql.Double.Text
import RecordSql.Fault
import RecordSql.Text.Quoted

/-! Structured texts of values, in ASCII. Sequences become arrays and dictionaries become objects,
whose keys may also be numbers, truth values and null. -/

namespace RecordSql.Json

def escapeUnit (n : Nat) : List Char := '\\' :: 'u' :: Text.hexDigits 4 n

/-- A code point inside quotes. Beyond the basic plane it is a pair of surrogates. -/
def encodeCode (n : Nat) : List Char :=
  let c := Char.ofNat n
  if c = '"' then ['\\', '"']
  else if c = '\\' then ['\\', '\\']
  else if c = '\n' then ['\\', 'n']
  else if c = '\r' then ['\\', 'r']
  else if c = '\t' then ['\\', 't']
  else if c = '\x0c' then ['\\', 'f']
  else if c = '\x08' then ['\\', 'b']
  else if 32 ≤ n && n < 127 then [c]
  else if n < 0x10000 then escapeUnit n
  else escapeUnit (0xD800 + (n - 0x10000) / 0x400) ++ escapeUnit (0xDC00 + n % 0x400)

def encodeText (s : String) : List Char := '"' :: (Text.codes s).flatMap encodeCode ++ ['"']

def encodeInt (n : Int) : List Char := (toString n).toList

def encodeFloat (x : Double) : List Char := (Double.Style.structured.text x).toList

def encodeBool (b : Bool) : List Char := if b then "true".toList else "false".toList

def keyText : Value → Except Fault String
  | .text s => .ok s
  | .int n => .ok (String.ofList (encodeInt n))
  | .float x => .ok (String.ofList (encodeFloat x))
  | .bool b => .ok (String.ofList (encodeBool b))
  | .null => .ok "null"
  | v => .error (.badKey v.typeName)

/-- Parts with a comma between each two. -/
def commas : List (List Char) → List Char
  | [] => []
  | [p] => p
  | p :: ps => p ++ ',' :: ' ' :: commas ps

mutual

def encode (refused : Value → Fault) : Value → Except Fault (List Char)
  | .null => .ok "null".toList
  | .bool b => .ok (encodeBool b)
  | .int n => .ok (encodeInt n)
  | .float x => .ok (encodeFloat x)
  | .text s => .ok (encodeText s)
  | .list l _ => (encodeItems refused l).map fun ps => '[' :: commas ps ++ [']']
  | .tuple l _ => (encodeItems refused l).map fun ps => '[' :: commas ps ++ [']']
  | .dict es _ => (encodeEntries refused es).map fun ps => '\x7b' :: commas ps ++ ['\x7d']
  | v => .error (refused v)

def encodeItems (refused : Value → Fault) : List Value → Except Fault (List (List Char))
  | [] => .ok []
  | v :: l => do
    let p ← encode refused v
    return p :: (← encodeItems refused l)

def encodeEntries (refused : Value → Fault) : List (Value × Value) → Except Fault (List (List Char))
  | [] => .ok []
  | (k, v) :: es => do
    let key ← keyText k
    let p ← encode refused v
    return (encodeText key ++ ':' :: ' ' :: p) :: (← encodeEntries refused es)

end

end RecordSql.Json
