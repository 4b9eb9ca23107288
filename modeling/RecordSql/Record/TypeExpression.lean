import RecordSql.Record.TypeCall
import RecordSql.Record.TypeTerm
import RecordSql.Text.Decoding

/-! Type expressions: the texts in which class bodies give the types of fields.

A text is a term, which stands for a value. Names stand for what a class has under them, or for what
is known everywhere. A text inside a type is an expression again. -/

namespace RecordSql

namespace TypeValue

/-! ### Names -/

def knownClasses : List String :=
  ["object", "type", "int", "float", "bool", "str", "bytes", "bytearray", "list", "tuple", "set",
    "frozenset", "dict", "complex", "range", "slice", "memoryview", "property", "staticmethod",
    "classmethod", "super", "enumerate", "filter", "map", "reversed", "zip"]

/-- The classes of what goes wrong, all of which are known everywhere. -/
def knownFailures : List String := Value.failureClasses.flatMap (·.2)

def knownFunctions : List String :=
  ["__build_class__", "__import__", "abs", "aiter", "all", "anext", "any", "ascii", "bin",
    "breakpoint", "callable", "chr", "compile", "delattr", "dir", "divmod", "eval", "exec",
    "format", "getattr", "globals", "hasattr", "hash", "hex", "id", "input", "isinstance",
    "issubclass", "iter", "len", "locals", "max", "min", "next", "oct", "open", "ord", "pow",
    "print", "repr", "round", "setattr", "sorted", "sum", "vars"]

/-- The values that are neither classes nor functions and that are known everywhere. -/
def knownValues : List (String × Value) :=
  let leaving (name : String) : Value :=
    .member "Quitter" ("Use " ++ name ++ "() or Ctrl-D (i.e. EOF) to exit")
  [("Ellipsis", TypeToken.rest), ("NotImplemented", .member "NotImplementedType" "NotImplemented"),
    ("__name__", .text "builtins"), ("__package__", .text ""), ("exit", leaving "exit"),
    ("quit", leaving "quit"),
    ("help", .member "_Helper" ("Type help() for interactive help, or help(object) for help " ++
      "about object.")),
    ("license", .member "_Printer" "Type license() to see the full license text")]

/-- What a name stands for everywhere. -/
def known? (name : String) : Option TypeValue :=
  if knownClasses.contains name || knownFailures.contains name then some (cls name)
  else if name = "IOError" || name = "EnvironmentError" then some (cls "OSError")
  else if knownFunctions.contains name then
    some (other (.member "builtin_function_or_method" ("<built-in function " ++ name ++ ">")))
  else (knownValues.lookup name).map other

/-! ### Terms -/

def setOf (objects : Objects) (l : List TypeValue) : Except Fault TypeValue := do
  let items ← Value.distinct objects (← toValues objects l)
  return other (.set (Value.setOrder items))

def dictOf (objects : Objects) (es : List (Value × Value)) : Except Fault TypeValue := do
  return other (.dict (← Value.distinctEntries objects es))

def entriesSpread : TypeValue → Except Fault (List (Value × Value))
  | other (.dict es _) => .ok es
  | t => .error (.notMapping t.typeName)

/-- What has no place for the values of names that an expression gives. -/
def outerNames : String := "LazyLocalNamespace"

mutual

def ofTerm (scope : TypeScope) : TypeTerm → Except Fault TypeValue
  | .name s => match scope.named s with
    | some t => .ok t
    | none => (known? s).elim (.error (.unboundName s)) .ok
  | .constant v => .ok (other v)
  | .filled pieces => do
    let texts ← (← ofTerms scope pieces).mapM (·.told scope.objects)
    return other (.text (String.join texts))
  | .told t form => do
    return other (.text (← (← ofTerm scope t).inForm scope.objects form))
  | .part t s => do (← ofTerm scope t).partOf scope s
  | .item t (.slice low high step) => do
    let t ← ofTerm scope t
    let low ← ofTerm scope low
    t.sliceOf scope.objects low (← ofTerm scope high) (← ofTerm scope step)
  | .item t index => do (← ofTerm scope t).itemOf scope.objects (← ofTerm scope index)
  | .slice low high step => do
    let bounds := [← ofTerm scope low, ← ofTerm scope high, ← ofTerm scope step]
    let shown ← shownTexts scope.objects bounds
    return other (.member "slice" ("slice(" ++ commaSeparated shown ++ ")"))
  | .call (.part t s) args => do
    let t ← ofTerm scope t
    let found ← t.partOf scope s
    let args ← ofTerms scope args
    (t.ofMethod? scope.objects s args).getD (found.called scope args [])
  | .call t args => do
    let t ← ofTerm scope t
    let given ← ofTerms scope args
    t.called scope given (← ofNamed scope args)
  | .signed sign t => do (← ofTerm scope t).signed sign
  | .joined sign a b => do
    match sign, ← ofTerm scope a with
    | "%", other (.text s) => filledBy scope.objects s (← ofTerm scope b)
    | sign, t => t.join sign (← ofTerm scope b)
  | .compared sign a b => do
    return other (.bool (← (← ofTerm scope a).compare scope.objects sign (← ofTerm scope b)))
  | .not t => do return other (.bool (!(← (← ofTerm scope t).truth scope.objects)))
  | .both a b => do
    let v ← ofTerm scope a
    if ← v.truth scope.objects then ofTerm scope b else return v
  | .first a b => do
    let v ← ofTerm scope a
    if ← v.truth scope.objects then return v else ofTerm scope b
  | .chosen test yes no => do
    if ← (← ofTerm scope test).truth scope.objects then ofTerm scope yes else ofTerm scope no
  | .row l => do return row (← ofTerms scope l)
  | .series l => do return series (← ofTerms scope l)
  | .set l => do setOf scope.objects (← ofTerms scope l)
  | .dict l => do dictOf scope.objects (← ofEntries scope l)
  | .gathered .series g => do return series (← ofGathering scope g)
  | .gathered .set g => do setOf scope.objects (← ofGathering scope g)
  | .gathered .dict g => do
    let pairs ← (← ofGathering scope g).mapM fun t => pairOf scope.objects 0 t
    dictOf scope.objects pairs
  | .bound _ t => do
    let v ← ofTerm scope t
    if scope.isInner then return v else throw (.noItemAssignment outerNames)
  | .entry key value => do return row [← ofTerm scope key, ← ofTerm scope value]
  | .spread t | .spreadEntries t | .keyword _ t => ofTerm scope t

/-- The values of several terms, of which some are spread; of arguments, those without names. -/
def ofTerms (scope : TypeScope) : List TypeTerm → Except Fault (List TypeValue)
  | [] => .ok []
  | .spread t :: l => do
    let items ← (← ofTerm scope t).spreadItems scope.objects
    return items ++ (← ofTerms scope l)
  | .keyword .. :: l | .spreadEntries _ :: l => ofTerms scope l
  | t :: l => do
    let v ← ofTerm scope t
    return v :: (← ofTerms scope l)

def ofNamed (scope : TypeScope) : List TypeTerm → Except Fault (List (String × TypeValue))
  | [] => .ok []
  | .keyword name t :: l => do
    let v ← ofTerm scope t
    return (name, v) :: (← ofNamed scope l)
  | .spreadEntries t :: l => do
    let es ← entriesSpread (← ofTerm scope t)
    let named ← es.mapM fun e => match e.1 with
      | .text s => .ok (s, ofValue e.2)
      | _ => .error .keywordNotText
    return named ++ (← ofNamed scope l)
  | _ :: l => ofNamed scope l

/-- The entries of a dictionary, of which some are spread. -/
def ofEntries (scope : TypeScope) : List TypeTerm → Except Fault (List (Value × Value))
  | [] => .ok []
  | .entry key value :: l => do
    let key ← (← ofTerm scope key).toValue scope.objects
    let value ← (← ofTerm scope value).toValue scope.objects
    return (key, value) :: (← ofEntries scope l)
  | .spreadEntries t :: l => do
    let es ← entriesSpread (← ofTerm scope t)
    return es ++ (← ofEntries scope l)
  | _ :: l => ofEntries scope l

def ofGathering (scope : TypeScope) : Gathering → Except Fault (List TypeValue)
  | .item t => do return [← ofTerm scope t]
  | .forEach names isSingle source g => do
    let items ← (← ofTerm scope source).items scope.objects
    let found ← items.mapM fun t => do
      ofGathering (scope.within (← t.unpacked scope.objects names isSingle)) g
    return found.flatten
  | .onlyIf test g => do
    if ← (← ofTerm scope test).truth scope.objects then ofGathering scope g else return []

end

/-! ### Texts -/

mutual

def settled (read : String → Except Fault TypeValue) : TypeValue → Except Fault TypeValue
  | parts name args => do return parts name (← settledAll read args)
  | choice types => do return choice (← settledAll read types)
  | other (.text s) => read s
  | t => .ok t

def settledAll (read : String → Except Fault TypeValue) :
    List TypeValue → Except Fault (List TypeValue)
  | [] => .ok []
  | t :: l => do return (← t.settled read) :: (← settledAll read l)

end

/-- The term of the text of a type. What is spread at the beginning of a text is its first item. -/
def termOf (s : String) : Except Fault TypeTerm := do
  Text.checkWhole s
  if s.toList.contains (Char.ofNat 0) then throw .nullInExpression
  let s' := if s.toList.head? = some '*' then "(" ++ s ++ ",)[0]" else s
  match TypeTerm.ofText? s' with
  | some term => return term
  | none => throw (.badExpression (Text.quoted s))

/-- How many characters of a value are shown that is no type. -/
def shownRoom : Nat := 100

/-- The value that a text stands for, where texts lie inside each other so many times at most. A
text inside itself is a name that nothing is bound to. -/
def ofText (scope : TypeScope) : Nat → List String → String → Except Fault TypeValue
  | 0, _, s => .error (.unboundName s)
  | depth + 1, around, s => do
    let term ← termOf s
    if around.contains s then throw (.unboundName s)
    match (← ofTerm scope term).opened with
    | row l =>
      let shown ← (row l).partText scope.objects
      throw (.expressionTuple (String.join ((Text.letters shown).take shownRoom)))
    | t => t.settled (ofText scope depth (s :: around))

/-- How deep texts may lie inside each other. -/
def textDepth : Nat := 50

/-- The value that the type of a field stands for as a body gives it. -/
def ofGiven (scope : TypeScope) : Value → Except Fault TypeValue
  | .text s => ofText scope textDepth [] s
  | v => .ok (ofValue v)

/-! ### Variables of classes -/

/-- What is left behind a name and an opening bracket, perhaps behind another name and a point. -/
def behindName? (name : String) (cs : List Char) : Option (List Char) :=
  let start := (name ++ "[").toList
  let behind (cs : List Char) : Option (List Char) :=
    if start.isPrefixOf cs then some (cs.drop start.length) else none
  match cs.dropWhile Text.isFollowing with
  | '.' :: rest =>
    if rest.length + 1 < cs.length then (behind rest).or (behind cs) else behind cs
  | _ => behind cs

/-- Whether a text says that a name is no field, but a variable of the class. -/
def isClassVariable (s : String) : Bool :=
  let isDirect (cs : List Char) : Bool := (behindName? "ClassVar" cs).isSome
  isDirect s.toList || ((behindName? "Annotated" s.toList).map isDirect).getD false

end TypeValue

end RecordSql
