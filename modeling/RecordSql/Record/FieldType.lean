import RecordSql.Objects

/-! Types of validated fields: what their values have to be, or are turned into. -/

namespace RecordSql

/-- What the values of a field have to be. No value at all is right for some types, which have a
name nevertheless. A row has any number of items, and a tuple as many as it has types. A record is a
validated object of a class or what one can be made of, and an object is one of any class;
both classes are given by number and name. -/
inductive FieldType where
  | any
  | null
  | bool
  | int
  | float
  | complex
  | text
  | bytes
  | never (why : Rejection) (name : String)
  | list (item : FieldType)
  | set (item : FieldType)
  | fixedSet (item : FieldType)
  | row (item : FieldType)
  | tuple (items : List FieldType)
  | dict (key value : FieldType)
  | union (choices : List FieldType)
  | optional (inner : FieldType)
  | record (cls : Nat) (name : String)
  | objectOf (cls : Nat) (name : String)
  deriving Inhabited

namespace FieldType

variable (isConstrained : Bool) (owner : Nat)

mutual

/-- The name of a type where the class under a number has none yet. Texts have another name if there
are constraints for them. -/
def nameWithin : FieldType → String
  | any => "any"
  | null => "none"
  | bool => "bool"
  | int => "int"
  | float => "float"
  | complex => "complex"
  | text => if isConstrained then "constrained-str" else "str"
  | bytes => "bytes"
  | never _ name => name
  | list t => "list[" ++ t.nameWithin ++ "]"
  | set t => "set[" ++ t.nameWithin ++ "]"
  | fixedSet t => "frozenset[" ++ t.nameWithin ++ "]"
  | row t => "tuple[" ++ t.nameWithin ++ ", ...]"
  | tuple l => "tuple[" ++ commaSeparated (namesWithin l) ++ "]"
  | dict k v => "dict[" ++ k.nameWithin ++ "," ++ v.nameWithin ++ "]"
  | union l => "union[" ++ ",".intercalate (namesWithin l) ++ "]"
  | optional t => "nullable[" ++ t.nameWithin ++ "]"
  | record c name => if c = owner then "..." else name
  | objectOf _ name => "is-instance[" ++ name ++ "]"

def namesWithin : List FieldType → List String
  | [] => []
  | t :: l => t.nameWithin :: namesWithin l

end

def label : FieldType → String
  | list t => "list[" ++ t.label ++ "]"
  | record _ name => name
  | t => t.nameWithin isConstrained owner

end FieldType

/-- What the type of a field says, as a value: the class of some plain values, such a class with
other types for its parts, a choice of types, several types in a row or as a series, or any other
value. -/
inductive TypeValue where
  | cls (name : String)
  | parts (cls : String) (args : List TypeValue)
  | choice (types : List TypeValue)
  | row (items : List TypeValue)
  | series (items : List TypeValue)
  | other (v : Value)
  deriving Inhabited

namespace TypeValue

/-! ### Values as types -/

def typeName : TypeValue → String
  | cls _ => "type"
  | parts .. => "types.GenericAlias"
  | choice _ => "types.UnionType"
  | row _ => "tuple"
  | series _ => "list"
  | other v => v.typeName

def ofValue : Value → TypeValue
  | .cls (.plain "Any") => other (.cls (.plain "Any"))
  | .cls (.plain name) => cls name
  | v => other v

mutual

/-- A type as messages show it inside others. -/
def partText (objects : Objects) : TypeValue → Except Fault String
  | cls name => .ok name
  | parts name args => do
    let shown := commaSeparated (← partTexts objects args)
    return name ++ "[" ++ (if args.isEmpty then "()" else shown) ++ "]"
  | choice types => do return " | ".intercalate (← partTexts objects types)
  | row l => do
    let shown := commaSeparated (← shownTexts objects l)
    return "(" ++ shown ++ (if l.length = 1 then ",)" else ")")
  | series l => do return "[" ++ commaSeparated (← shownTexts objects l) ++ "]"
  | other (.member "ellipsis" _) => .ok "..."
  | other (.cls c) => .ok c.label
  | other v => v.shown objects

def partTexts (objects : Objects) : List TypeValue → Except Fault (List String)
  | [] => .ok []
  | t :: l => do return (← t.partText objects) :: (← partTexts objects l)

/-- Types as messages show them on their own. -/
def shownTexts (objects : Objects) : List TypeValue → Except Fault (List String)
  | [] => .ok []
  | cls name :: l => do
    return (← (Value.cls (.plain name)).shown objects) :: (← shownTexts objects l)
  | other v :: l => do return (← v.shown objects) :: (← shownTexts objects l)
  | t :: l => do return (← t.partText objects) :: (← shownTexts objects l)

end

mutual

def toValue (objects : Objects) : TypeValue → Except Fault Value
  | cls name => .ok (.cls (.plain name))
  | row l => do return .tuple (← toValues objects l)
  | series l => do return .list (← toValues objects l)
  | other v => .ok v
  | t => do return .member t.typeName (← t.partText objects)

def toValues (objects : Objects) : List TypeValue → Except Fault (List Value)
  | [] => .ok []
  | t :: l => do return (← t.toValue objects) :: (← toValues objects l)

end

/-! ### Choices -/

/-- Whether a value can be one of several types. -/
def isAlternative : TypeValue → Bool
  | cls _ | parts .. | choice _ | other .null | other (.cls _) => true
  | _ => false

mutual

/-- Whether two types are the same, which no two other values are. -/
def same : TypeValue → TypeValue → Bool
  | cls a, cls b => a == b
  | parts a l, parts b m => a == b && sameAll l m
  | choice l, choice m => sameAll l m
  | other .null, other .null => true
  | other (.cls a), other (.cls b) => a == b
  | _, _ => false

def sameAll : List TypeValue → List TypeValue → Bool
  | [], [] => true
  | a :: l, b :: m => a.same b && sameAll l m
  | _, _ => false

end

/-- The types among which a choice is made. -/
def alternatives : TypeValue → List TypeValue
  | choice l => l
  | t => [t]

/-- Different types, the first of each. -/
def distinctTypes (l : List TypeValue) : List TypeValue :=
  l.foldl (fun found t => if found.any t.same then found else found ++ [t]) []

/-- A choice between two types, of which one at least has to be a class. -/
def either (a b : TypeValue) : Except Fault TypeValue :=
  let areNull := a.typeName = "NoneType" && b.typeName = "NoneType"
  if a.isAlternative && b.isAlternative && !areNull then
    match distinctTypes (a.alternatives ++ b.alternatives) with
    | [t] => .ok t
    | l => .ok (choice l)
  else .error (.notOperands "|" a.typeName b.typeName)

/-! ### Types of values -/

def classType : FieldType := .never .classType "custom-error[is-instance[type]]"

/-- The types of the values of classes without parts, and of classes with any parts. -/
def plainTypes : List (String × FieldType) :=
  [("object", .any), ("Any", .any), ("NoneType", .null), ("bool", .bool), ("int", .int),
    ("float", .float), ("complex", .complex), ("str", .text), ("bytes", .bytes),
    ("type", classType), ("list", .list .any), ("set", .set .any), ("frozenset", .fixedSet .any),
    ("tuple", .row .any), ("dict", .dict .any .any)]

/-- Whether a value stands for any further items. -/
def isRest : TypeValue → Bool
  | other (.member "ellipsis" _) => true
  | _ => false

def otherClass (name : String) : FieldType := .never .otherClass ("is-instance[" ++ name ++ "]")

def derivedClass (name : String) : FieldType :=
  .never .otherAncestor ("is-subclass[" ++ name ++ "]")

section

variable (objects : Objects) (lenient : Bool)

def noType (v : Value) : Except Fault FieldType := do throw (.noType (← v.told objects))

def declaredType (c : ClassRef) : Except Fault FieldType :=
  match c with
  | .declared id name qualname _ maker =>
    if maker = "ModelMetaclass" then .ok (.record id name)
    else if lenient then .ok (.objectOf id qualname)
    else noType objects (.cls c)
  | .plain name => .ok ((plainTypes.lookup name).getD (otherClass name))

mutual

/-- The type of classes that are derived from those that a value stands for. -/
def derivedType : TypeValue → Except Fault FieldType
  | cls name => .ok (derivedClass name)
  | other (.cls (.plain "Any")) => .ok classType
  | other (.cls c) => .ok (derivedClass c.qualname)
  | other .null => .ok (derivedClass "NoneType")
  | choice types => do return .union (← derivedTypes types)
  | parts name args => do throw (.classOfParts (← (parts name args).partText objects) name)
  | t => do throw (.classExpected (← (← t.toValue objects).shown objects))

def derivedTypes : List TypeValue → Except Fault (List FieldType)
  | [] => .ok []
  | t :: l => do return (← t.derivedType) :: (← derivedTypes l)

end

mutual

/-- The type that a value stands for. Values that stand for none are refused, or else let every
value pass. -/
def fieldType : TypeValue → Except Fault FieldType
  | cls name => match plainTypes.lookup name with
    | some t => .ok t
    | none => if lenient then .ok (otherClass name) else noType objects (.cls (.plain name))
  | parts "list" args => do return .list (← firstType args)
  | parts "set" args => do return .set (← firstType args)
  | parts "frozenset" args => do return .fixedSet (← firstType args)
  | parts "dict" args => do match ← pairTypes args with
    | some (key, value) => return .dict key value
    | none => throw (.typePairNeeded "dict")
  | parts "tuple" args => tupleType args
  | parts "type" args => match args with
    | [] => .ok classType
    | t :: _ => t.derivedType objects
  | parts name args =>
    if lenient then .ok (otherClass name)
    else do throw (.noType (← (parts name args).partText objects))
  | choice types => do
    let choices ← choiceTypes types
    let inner := match choices with
      | [t] => t
      | l => FieldType.union l
    return if types.any fun t => t.typeName = "NoneType" then .optional inner else inner
  | other .null => .ok .null
  | other (.cls c) => declaredType objects lenient c
  | other (.dict es _) => match Value.lookup? es "type" with
    | none => .error (.missingKey (.text "type"))
    | some _ => noType objects (.dict es)
  | t => do if lenient then return .any else noType objects (← t.toValue objects)

def firstType : List TypeValue → Except Fault FieldType
  | [] => .ok .any
  | t :: _ => t.fieldType

/-- The types that the first two of some values stand for, if there are two. -/
def pairTypes : List TypeValue → Except Fault (Option (FieldType × FieldType))
  | [] => .ok (some (.any, .any))
  | [_] => .ok none
  | a :: b :: _ => do return some (← a.fieldType, ← b.fieldType)

/-- The type of tuples whose items have the types that some values stand for. -/
def tupleType : List TypeValue → Except Fault FieldType
  | [] => .ok (.tuple [])
  | [t] => do
    if t.isRest then throw .openTuple
    return .tuple [← t.fieldType]
  | t :: rest => do
    match rest with
    | [u] => if u.isRest then return .row (← t.fieldType)
    | _ => pure ()
    if (rest.getLast?.map isRest).getD false then throw .openTuple
    return .tuple ((← t.fieldType) :: (← allTypes rest))

def allTypes : List TypeValue → Except Fault (List FieldType)
  | [] => .ok []
  | t :: l => do return (← t.fieldType) :: (← allTypes l)

/-- The types among which a choice is made, apart from null. -/
def choiceTypes : List TypeValue → Except Fault (List FieldType)
  | [] => .ok []
  | t :: l => do
    if t.typeName = "NoneType" then choiceTypes l
    else return (← t.fieldType) :: (← choiceTypes l)

end

end

end TypeValue

end RecordSql
