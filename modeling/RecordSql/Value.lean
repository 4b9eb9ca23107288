import RecordSql.Double

/-! The values that records hold, conditions compare with and statements bind. -/

namespace RecordSql

/-- A class: one declared in a world, with the label that messages show and the name of its own
class, or the class of some plain values. -/
inductive ClassRef where
  | declared (id : Nat) (name qualname label maker : String)
  | plain (name : String)
  deriving DecidableEq, Inhabited

namespace ClassRef

def name : ClassRef → String
  | declared _ name .. => name
  | plain name => name

/-- The name that includes the place of the declaration. -/
def qualname : ClassRef → String
  | declared _ _ qualname .. => qualname
  | plain name => name

/-- The modules that the classes of some plain values are in. -/
def homes : List (String × String) :=
  [("Field", "dataclasses"), ("_DataclassParams", "dataclasses"),
    ("_HAS_DEFAULT_FACTORY_CLASS", "dataclasses"), ("Literal", "entity_sql.query.where"),
    ("Operator", "entity_sql.query.where"), ("Column", "entity_sql.declarative"),
    ("Relation", "entity_sql.declarative"), ("MetadataRegistry", "entity_sql.core.registry"),
    ("SelectQueryBuilder", "entity_sql.query.select"),
    ("InsertQueryBuilder", "entity_sql.query.insert"),
    ("UpdateQueryBuilder", "entity_sql.query.update"),
    ("DeleteQueryBuilder", "entity_sql.query.delete"),
    ("FieldInfo", "pydantic.fields"), ("ModelPrivateAttr", "pydantic.fields"),
    ("ModelMetaclass", "pydantic._internal._model_construction"),
    ("DecoratorInfos", "pydantic._internal._decorators"),
    ("SchemaValidator", "pydantic_core._pydantic_core"),
    ("SchemaSerializer", "pydantic_core._pydantic_core"), ("Signature", "inspect"),
    ("_AnyMeta", "typing"), ("Any", "typing"), ("_abc_data", "_abc")]

/-- The name in front of which the module of the declaration stands. -/
def label : ClassRef → String
  | declared _ _ _ label _ => label
  | plain name => (homes.lookup name).elim name (· ++ "." ++ name)

def maker : ClassRef → String
  | declared _ _ _ _ maker => maker
  | plain "Any" => "_AnyMeta"
  | plain _ => "type"

end ClassRef

/-- A value. Dictionaries keep their order and hold a key once; sets hold an element once, and a
fixed set, which never changes, can be a key itself. A collection or condition has a serial number
that tells it from others with the same parts; zero stands for one that nothing holds yet. A feed is
a sequence that can be read only once, and an object a record with identity: both are referred to by
number, and a world holds what stands behind the number. A member is what a class or an object has
besides values, such as a function, and is known by its type and its text. -/
inductive Value where
  | null
  | bool (b : Bool)
  | int (n : Int)
  | float (x : Double)
  | text (s : String)
  | bytes (bs : List UInt8)
  | list (items : List Value) (serial : Nat := 0)
  | tuple (items : List Value) (serial : Nat := 0)
  | set (items : List Value) (serial : Nat := 0)
  | fixedSet (items : List Value) (serial : Nat := 0)
  | dict (entries : List (Value × Value)) (serial : Nat := 0)
  | literal (value : Value) (serial : Nat := 0)
  | operator (token operand : Value) (serial : Nat := 0)
  | feed (id : Nat)
  | object (id : Nat) (cls : ClassRef)
  | cls (c : ClassRef)
  | member (type shown : String)
  deriving Inhabited

/-- What a value can refer to by number. -/
inductive Reference where
  | collection (serial : Nat)
  | feed (id : Nat)
  | object (id : Nat)
  deriving DecidableEq

namespace Value

def typeName : Value → String
  | null => "NoneType"
  | bool _ => "bool"
  | int _ => "int"
  | float _ => "float"
  | text _ => "str"
  | bytes _ => "bytes"
  | list .. => "list"
  | tuple .. => "tuple"
  | set .. => "set"
  | fixedSet .. => "frozenset"
  | dict .. => "dict"
  | literal .. => "Literal"
  | operator .. => "Operator"
  | feed _ => "list_iterator"
  | object _ c => c.name
  | cls c => c.maker
  | member type _ => type

def classOf : Value → ClassRef
  | object _ c => c
  | v => .plain v.typeName

/-- A value counts as true unless it is zero, empty or null. -/
def truthy : Value → Bool
  | null => false
  | bool b => b
  | int n => n != 0
  | float x => !x.isZero
  | text s => s != ""
  | bytes bs => !bs.isEmpty
  | list l _ => !l.isEmpty
  | tuple l _ => !l.isEmpty
  | set l _ => !l.isEmpty
  | fixedSet l _ => !l.isEmpty
  | dict es _ => !es.isEmpty
  | _ => true

def text? : Value → Option String
  | text s => some s
  | _ => none

def isNull : Value → Bool
  | null => true
  | _ => false

/-- The value under a text in the entries of a mapping. -/
def lookup? (es : List (Value × Value)) (key : String) : Option Value :=
  (es.find? fun e => e.1.text? = some key).map (·.2)

/-- The entries with a value under a text: in its place, or at the end. -/
def put (es : List (Value × Value)) (key : String) (v : Value) : List (Value × Value) :=
  match es with
  | [] => [(text key, v)]
  | e :: es => if e.1.text? = some key then (e.1, v) :: es else e :: put es key v

/-- The entries without a text. -/
def erase (es : List (Value × Value)) (key : String) : List (Value × Value) :=
  es.filter fun e => e.1.text? ≠ some key

def entries (l : List (String × Value)) : List (Value × Value) := l.map fun e => (text e.1, e.2)

/-- The entries that stand under texts. -/
def named (es : List (Value × Value)) : List (String × Value) :=
  es.filterMap fun e => e.1.text?.map fun name => (name, e.2)

end Value

end RecordSql
