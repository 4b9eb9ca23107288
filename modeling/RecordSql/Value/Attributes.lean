import RecordSql.Fault
import RecordSql.Value.Description

/-! The attributes that values have by their kind: parts of numbers, fields of conditions, and the
functions of every kind. -/

namespace RecordSql

/-- How a class has a function: as one of its objects or of itself, as the rule for an operator, or
from its foundations, where it may be the same for the objects and the class. -/
inductive Routine where
  | method
  | classMethod
  | operatorRule
  | foundation
  | shared
  deriving DecidableEq

namespace Routine

def typeOnObject : Routine → String
  | method | classMethod => "method"
  | operatorRule => "method-wrapper"
  | foundation | shared => "builtin_function_or_method"

def typeOnClass : Routine → String
  | method => "function"
  | classMethod => "method"
  | operatorRule => "wrapper_descriptor"
  | foundation => "method_descriptor"
  | shared => "builtin_function_or_method"

/-- The function as an object of a type tells it, given the name of the type's own type, whose
objects have the functions that are the same for all. -/
def ofObject (r : Routine) (name type maker : String) : Value :=
  let shown := match r with
    | method | classMethod => "<bound method " ++ name ++ " of " ++ type
    | operatorRule => "<method-wrapper '" ++ name ++ "' of " ++ type
    | foundation => "<built-in method " ++ name ++ " of " ++ type
    | shared => "<built-in method " ++ name ++ " of " ++ maker
  .member r.typeOnObject (shown ++ " object at 0x>")

/-- The function of a class, first had by an owner, as the class tells it. -/
def ofClass (r : Routine) (owner name : String) (c : ClassRef) : Value :=
  let shown := match r with
    | method => "<function " ++ owner ++ "." ++ name ++ " at 0x>"
    | classMethod => "<bound method " ++ owner ++ "." ++ name ++ " of " ++
        "<class '" ++ c.label ++ "'>>"
    | operatorRule => "<slot wrapper '" ++ name ++ "' of '" ++ owner ++ "' objects>"
    | foundation => "<method '" ++ name ++ "' of '" ++ owner ++ "' objects>"
    | shared => "<built-in method " ++ name ++ " of type object at 0x>"
  .member r.typeOnClass shown

/-- The functions that everything has. -/
def universal : List (Routine × List String) :=
  [(operatorRule, ["__delattr__", "__eq__", "__ge__", "__getattribute__", "__gt__", "__hash__",
      "__init__", "__le__", "__lt__", "__ne__", "__repr__", "__setattr__", "__str__"]),
    (foundation, ["__dir__", "__format__", "__getstate__", "__reduce__", "__reduce_ex__",
      "__sizeof__"]),
    (shared, ["__init_subclass__", "__new__", "__subclasshook__"])]

def find? (table : List (Routine × List String)) (name : String) : Option Routine :=
  (table.find? fun e => e.2.contains name).map (·.1)

end Routine

namespace Value

/-! ### Functions -/

/-- What numbers are calculated with. -/
def arithmetic : List String :=
  ["__abs__", "__add__", "__bool__", "__divmod__", "__float__", "__floordiv__", "__int__",
    "__mod__", "__mul__", "__neg__", "__pos__", "__pow__", "__radd__", "__rdivmod__",
    "__rfloordiv__", "__rmod__", "__rmul__", "__rpow__", "__rsub__", "__rtruediv__", "__sub__",
    "__truediv__"]

/-- What the bits of integers are calculated with. -/
def bitwise : List String :=
  ["__and__", "__index__", "__invert__", "__lshift__", "__or__", "__rand__", "__rlshift__",
    "__ror__", "__rrshift__", "__rshift__", "__rxor__", "__xor__"]

def setAlgebra : List String :=
  ["__and__", "__iter__", "__len__", "__or__", "__rand__", "__ror__", "__rsub__", "__rxor__",
    "__sub__", "__xor__"]

/-- What sequences are put together with. -/
def sequencing : List String :=
  ["__add__", "__contains__", "__iter__", "__len__", "__mul__", "__rmul__"]

/-- What texts and byte strings both can do. -/
def textual : List String :=
  ["__getnewargs__", "capitalize", "center", "count", "endswith", "expandtabs", "find", "index",
    "isalnum", "isalpha", "isascii", "isdigit", "islower", "isspace", "istitle", "isupper",
    "join", "ljust", "lower", "lstrip", "maketrans", "partition", "removeprefix", "removesuffix",
    "replace", "rfind", "rindex", "rjust", "rpartition", "rsplit", "rstrip", "split",
    "splitlines", "startswith", "strip", "swapcase", "title", "translate", "upper", "zfill"]

/-- What sets of both kinds can do. -/
def comparing : List String :=
  ["__class_getitem__", "__contains__", "copy", "difference", "intersection", "isdisjoint",
    "issubset", "issuperset", "symmetric_difference", "union"]

/-- The functions that a value has by its kind. -/
def routines : Value → List (Routine × List String)
  | null => [(.operatorRule, ["__bool__"])]
  | bool _ | int _ => [(.operatorRule, arithmetic ++ bitwise),
      (.foundation, ["__ceil__", "__floor__", "__getnewargs__", "__round__", "__trunc__",
        "as_integer_ratio", "bit_count", "bit_length", "conjugate", "from_bytes", "to_bytes"])]
  | float _ => [(.operatorRule, arithmetic),
      (.foundation, ["__ceil__", "__floor__", "__getformat__", "__getnewargs__", "__round__",
        "__trunc__", "as_integer_ratio", "conjugate", "fromhex", "hex", "is_integer"])]
  | text _ => [(.operatorRule, ["__getitem__", "__mod__", "__rmod__"] ++ sequencing),
      (.foundation, ["casefold", "encode", "format", "format_map", "isdecimal", "isidentifier",
        "isnumeric", "isprintable"] ++ textual)]
  | bytes _ => [(.operatorRule, ["__getitem__", "__mod__", "__rmod__"] ++ sequencing),
      (.foundation, ["__bytes__", "decode", "fromhex", "hex"] ++ textual)]
  | list .. => [(.operatorRule, ["__delitem__", "__iadd__", "__imul__", "__setitem__"] ++
        sequencing),
      (.foundation, ["__class_getitem__", "__getitem__", "__reversed__", "append", "clear",
        "copy", "count", "extend", "index", "insert", "pop", "remove", "reverse", "sort"])]
  | tuple .. => [(.operatorRule, "__getitem__" :: sequencing),
      (.foundation, ["__class_getitem__", "__getnewargs__", "count", "index"])]
  | set .. => [(.operatorRule, ["__iand__", "__ior__", "__isub__", "__ixor__"] ++ setAlgebra),
      (.foundation, ["add", "clear", "difference_update", "discard", "intersection_update",
        "pop", "remove", "symmetric_difference_update", "update"] ++ comparing)]
  | fixedSet .. => [(.operatorRule, setAlgebra), (.foundation, comparing)]
  | dict .. => [(.operatorRule, ["__delitem__", "__ior__", "__iter__", "__len__", "__or__",
        "__ror__", "__setitem__"]),
      (.foundation, ["__class_getitem__", "__contains__", "__getitem__", "__reversed__", "clear",
        "copy", "fromkeys", "get", "items", "keys", "pop", "popitem", "setdefault", "update",
        "values"])]
  | literal .. | operator .. => [(.method, ["__delattr__", "__eq__", "__hash__", "__init__",
      "__repr__", "__setattr__"])]
  | feed _ => [(.operatorRule, ["__iter__", "__next__"]),
      (.foundation, ["__length_hint__", "__setstate__"])]
  | _ => []

def routine? (v : Value) (name : String) : Option Value :=
  (Routine.find? (v.routines ++ Routine.universal) name).map fun r =>
    r.ofObject name v.typeName "type"

/-! ### Attributes -/

def conditionAttribute? (fields : List (String × String × Value)) (name : String) :
    Option Value :=
  match name with
  | "__module__" => some (text "entity_sql.query.where")
  | "__weakref__" => some null
  | "__dict__" => some (dict (entries (fields.map fun f => (f.1, f.2.2))))
  | "__match_args__" => some (tuple (fields.map fun f => text f.1))
  | "__annotations__" => some (dict (entries (fields.map fun f => (f.1, text f.2.1))))
  | "__dataclass_fields__" =>
    some (dict (entries (fields.map fun f => (f.1, member "Field" "Field"))))
  | "__dataclass_params__" => some (member "_DataclassParams" "_DataclassParams")
  | name => (fields.lookup name).map (·.2)

/-- An attribute that is no function of a value that is neither a class nor an object. -/
def dataAttribute? (v : Value) (name : String) : Option Value :=
  match v, name with
  | int _, "real" | int _, "numerator" | float _, "real" => some v
  | int _, "imag" => some (int 0)
  | int _, "denominator" | bool _, "denominator" => some (int 1)
  | float _, "imag" => some (float (Double.ofMagnitude false 0))
  | bool b, "real" | bool b, "numerator" => some (int (if b then 1 else 0))
  | bool _, "imag" => some (int 0)
  | list .., "__hash__" | set .., "__hash__" | dict .., "__hash__" => some null
  | v, "__doc__" => some v.about
  | literal v _, name => conditionAttribute? [("value", "Any", v)] name
  | operator t v _, name => conditionAttribute? [("token", "str", t), ("operand", "Any", v)] name
  | _, _ => none

/-- The names of the attributes that are no functions and that a value has by its kind. -/
def dataNames : Value → List String
  | bool _ | int _ => ["denominator", "imag", "numerator", "real"]
  | float _ => ["imag", "real"]
  | literal .. => ["value"]
  | operator .. => ["operand", "token"]
  | _ => []

def attributeNames (v : Value) : List String := v.dataNames ++ v.routines.flatMap (·.2)

/-- An attribute of a value that is neither a class nor an object. -/
def ownAttribute? (v : Value) (name : String) : Option Value :=
  if name = "__class__" then some (cls v.classOf)
  else (v.dataAttribute? name).or (v.routine? name)

end Value

end RecordSql
