import RecordSql.Value.Attributes

/-! The attributes that the classes of plain values tell: what a class says of itself, the functions
of its objects, and those that classes have by being classes. -/

namespace RecordSql

namespace Routine

/-- The functions of classes that their objects do not have. -/
def ofClasses (validated : Bool) : List (Routine × List String) :=
  let ofKinds := ["__instancecheck__", "__subclasscheck__", "__prepare__"]
  [(.operatorRule, ["__call__", "__or__", "__ror__"]), (.shared, ["mro", "__subclasses__"])] ++
  if validated then
    [(.method, ofKinds ++
      ["register", "_dump_registry", "_abc_registry_clear", "_abc_caches_clear"])]
  else [(.shared, ofKinds)]

/-- The functions that a class has for itself and not for its objects. -/
def bound : List String :=
  ["__class_getitem__", "__getformat__", "from_bytes", "fromhex", "fromkeys", "maketrans"]

end Routine

namespace Value

def samples : List Value :=
  [null, bool false, int 0, float (Double.ofMagnitude false 0), text "", bytes [], list [],
    tuple [], set [], fixedSet [], dict []]

def sample? (cls : String) : Option Value := samples.find? fun v => v.typeName = cls

def comparedClasses : List String :=
  ["int", "float", "str", "bytes", "list", "tuple", "set", "frozenset", "dict", "complex", "range",
    "slice", "bytearray"]

/-- The functions that everything has and that some classes have in a form of their own. -/
def ownForms : List (List String × List String) :=
  [(["__eq__", "__ge__", "__getattribute__", "__gt__", "__hash__", "__le__", "__lt__", "__ne__",
      "__repr__"], comparedClasses),
    (["__repr__"], ["bool", "NoneType"]),
    (["__format__"], ["int", "float", "str", "complex"]),
    (["__str__"], ["str", "bytes", "bytearray"]),
    (["__init__"], ["list", "set", "dict", "bytearray"]),
    (["__sizeof__"], ["int", "str", "list", "set", "frozenset", "dict", "bytearray"]),
    (["__reduce__"], ["set", "frozenset", "range", "slice", "bytearray"])]

/-- The classes of what goes wrong, by the class that they derive from. -/
def failureClasses : List (String × List String) :=
  [("object", ["BaseException"]),
    ("BaseException", ["BaseExceptionGroup", "Exception", "GeneratorExit", "KeyboardInterrupt",
      "SystemExit"]),
    ("BaseExceptionGroup", ["ExceptionGroup"]),
    ("Exception", ["ArithmeticError", "AssertionError", "AttributeError", "BufferError",
      "EOFError", "ImportError", "LookupError", "MemoryError", "NameError", "OSError",
      "ReferenceError", "RuntimeError", "StopAsyncIteration", "StopIteration", "SyntaxError",
      "SystemError", "TypeError", "ValueError", "Warning"]),
    ("ArithmeticError", ["FloatingPointError", "OverflowError", "ZeroDivisionError"]),
    ("ImportError", ["ModuleNotFoundError"]),
    ("LookupError", ["IndexError", "KeyError"]),
    ("NameError", ["UnboundLocalError"]),
    ("OSError", ["BlockingIOError", "ChildProcessError", "ConnectionError", "FileExistsError",
      "FileNotFoundError", "InterruptedError", "IsADirectoryError", "NotADirectoryError",
      "PermissionError", "ProcessLookupError", "TimeoutError"]),
    ("ConnectionError", ["BrokenPipeError", "ConnectionAbortedError", "ConnectionRefusedError",
      "ConnectionResetError"]),
    ("RuntimeError", ["NotImplementedError", "RecursionError"]),
    ("SyntaxError", ["IndentationError"]),
    ("IndentationError", ["TabError"]),
    ("ValueError", ["UnicodeError"]),
    ("UnicodeError", ["UnicodeDecodeError", "UnicodeEncodeError", "UnicodeTranslateError"]),
    ("Warning", ["BytesWarning", "DeprecationWarning", "EncodingWarning", "FutureWarning",
      "ImportWarning", "PendingDeprecationWarning", "ResourceWarning", "RuntimeWarning",
      "SyntaxWarning", "UnicodeWarning", "UserWarning"])]

def baseOf (cls : String) : String :=
  if cls = "bool" then "int"
  else ((failureClasses.find? fun e => e.2.contains cls).map (·.1)).getD "object"

def basesOf (cls : String) : List String :=
  if cls = "object" then []
  else if cls = "ExceptionGroup" then [baseOf cls, "Exception"]
  else [baseOf cls]

def lineLength : Nat := 8

/-- A class and what it derives from, in so many steps at most. -/
def lineWithin : Nat → String → List String
  | 0, c => [c]
  | steps + 1, c => if c = "object" then [c] else c :: lineWithin steps (baseOf c)

def classLine (cls : String) : List String :=
  if cls = "ExceptionGroup" then [cls, "BaseExceptionGroup"] ++ lineWithin lineLength "Exception"
  else lineWithin lineLength cls

def routineOwner (cls name : String) : String :=
  let isLogical := ["__and__", "__or__", "__rand__", "__ror__", "__rxor__", "__xor__"].contains name
  if cls = "bool" && !isLogical then "int" else cls

/-- The class that first has a function of everything in the form in which a class has it. -/
def formOwner (cls name : String) : String :=
  let has (c : String) : Bool := ownForms.any fun e => e.1.contains name && e.2.contains c
  ((classLine cls).find? has).getD "object"

/-- A function that a class tells. -/
def classRoutine? (cls name : String) : Option Value :=
  let c : ClassRef := .plain cls
  let own := ((sample? cls).map routines).getD []
  match Routine.find? own name, Routine.find? Routine.universal name with
  | some r, _ =>
    let r := if Routine.bound.contains name then .shared else r
    some (r.ofClass (routineOwner cls name) name c)
  | none, some r => some (r.ofClass (formOwner cls name) name c)
  | none, none => (Routine.find? (Routine.ofClasses false) name).map fun r =>
    if cls = "type" then (if r = .shared then .foundation else r).ofClass cls name c
    else r.ofObject name "type" "type"

def classDatum? (name : String) : String → Option Value
  | "__name__" | "__qualname__" => some (text name)
  | "__module__" => some (text ((ClassRef.homes.lookup name).getD "builtins"))
  | "__class__" => some (cls (.plain (ClassRef.plain name).maker))
  | "__doc__" => (sample? name).map about
  | "__base__" => some (if name = "object" then null else cls (.plain (baseOf name)))
  | "__bases__" => some (tuple ((basesOf name).map fun c => cls (.plain c)))
  | "__mro__" => some (tuple ((classLine name).map fun c => cls (.plain c)))
  | _ => none

/-- What a class tells in the place of the data of its values. -/
def datumDescription? (cls name : String) : Option Value := do
  let v ← sample? cls
  let _ ← v.dataAttribute? name
  if name = "__hash__" then return null
  let owner := if cls = "bool" then "int" else cls
  return member "getset_descriptor" ("<attribute '" ++ name ++ "' of '" ++ owner ++ "' objects>")

def plainClassAttribute? (cls name : String) : Option Value :=
  ((classDatum? cls name).or (datumDescription? cls name)).or (classRoutine? cls name)

end Value

end RecordSql
