import RecordSql.Metadata
import RecordSql.Json.Decode
import RecordSql.Json.Encode

/-! The transformers that store collections as structured texts. An empty or absent collection is
stored as null. -/

namespace RecordSql.Transformer

/-- Null, or a collection without items. -/
def isEmpty : Value → Bool
  | .null => true
  | .list l _ | .tuple l _ | .set l _ | .fixedSet l _ => l.isEmpty
  | .dict es _ => es.isEmpty
  | _ => false

/-- A collection as an array, if it is not a list or a dictionary already. -/
def arrayOf : Value → Value
  | .tuple l _ | .set l _ | .fixedSet l _ => .list l
  | v => v

/-- The fault by which a value without a structured text is refused, in the name of its class. -/
def refusal (objects : Objects) (v : Value) : Fault :=
  let label := do (← (← v.attr objects "__class__").attr objects "__name__").written objects
  match label with
  | .ok type => .unserializable type
  | .error f => f

def storeCollection (objects : Objects) (v : Value) : Except Fault Value := do
  v.checkKind objects
  if isEmpty v then return .null
  else return .text (String.ofList (← Json.encode (refusal objects) (arrayOf v)))

/-- Null and the empty texts are revived as `blank`. -/
def loadCollection (blank : Value) (objects : Objects) (v : Value) : Except Fault Value :=
  match v with
  | .null | .text "" | .bytes [] => .ok blank
  | v => do
    v.checkEquality objects
    v.checkKind objects
    Json.load .usual v

def collection (name : String) (blank : Value) : Transformer :=
  ⟨name, storeCollection, loadCollection blank⟩

/-- Objects and arrays; null is revived as an empty dictionary. -/
def json : Transformer := collection "json" (.dict [])

/-- Arrays of numbers; null is revived as an empty list. -/
def numberArray : Transformer := collection "number_array" (.list [])

/-- Arrays of texts; null is revived as an empty list. -/
def stringArray : Transformer := collection "string_array" (.list [])

end RecordSql.Transformer
