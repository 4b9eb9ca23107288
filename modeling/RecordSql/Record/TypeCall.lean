import RecordSql.Record.TypeOperation
import RecordSql.Record.TypeToken
import RecordSql.Text.Case
import RecordSql.Value.Conversion

/-! Calls in type expressions: what classes make of values, the functions that are known everywhere,
and the functions of texts. No other call comes to anything. -/

namespace RecordSql

namespace TypeValue

/-! ### Arguments -/

def sole (function : String) : List TypeValue → Except Fault TypeValue
  | [t] => .ok t
  | l => .error (.soleArgumentNeeded function l.length)

/-- The argument that may be left out. -/
def optional (function : String) : List TypeValue → Except Fault (Option TypeValue)
  | [] => .ok none
  | [t] => .ok (some t)
  | l => .error (.argumentCount function "at most " 1 l.length)

/-- The integer that an argument is. -/
def asIndex (t : TypeValue) : Except Fault Int :=
  let index? := match t with
    | other v => v.integer?
    | _ => none
  index?.elim (.error (.integerNeeded t.typeName)) .ok

def asName : TypeValue → Except Fault String
  | other (.text s) => .ok s
  | t => .error (.attributeNotText t.typeName)

/-! ### Texts -/

def shown (objects : Objects) (t : TypeValue) : Except Fault String := do
  return String.join (← shownTexts objects [t])

def told (objects : Objects) : TypeValue → Except Fault String
  | other v => v.told objects
  | t => t.shown objects

/-- A text with escapes for all but the characters of ASCII. -/
def escaped (s : String) : String :=
  String.ofList ((Text.codes s).flatMap fun n =>
    if n < 128 then [Char.ofNat n] else Text.escapeCode n)

def inForm (objects : Objects) (t : TypeValue) : TextForm → Except Fault String
  | .told => t.told objects
  | .shown => t.shown objects
  | .escaped => (t.shown objects).map escaped

/-- A value in the place of a text that a letter stands for, at an index. -/
def inPlace (objects : Objects) (t : TypeValue) (letter : String) (index : Nat) :
    Except Fault String :=
  match letter with
  | "s" => t.told objects
  | "r" => t.shown objects
  | "a" => (t.shown objects).map escaped
  | "d" | "i" | "u" => match t with
    | other v =>
      if v.isNumber then (v.toInt objects).map toString
      else .error (.numberForPlace letter v.typeName)
    | t => .error (.numberForPlace letter t.typeName)
  | letter => .error (.unknownPlace letter index)

/-- A text with values in its places, from an index on, and the values that are left. -/
def inPlaces (objects : Objects) :
    Nat → List TypeValue → List String → Except Fault (String × List TypeValue)
  | _, l, [] => .ok ("", l)
  | _, _, ["%"] => .error .openPlace
  | n, l, "%" :: "%" :: letters => do
    let (s, l) ← inPlaces objects (n + 2) l letters
    return ("%" ++ s, l)
  | _, [], "%" :: _ => .error .tooFewForPlaces
  | n, t :: l, "%" :: letter :: letters => do
    let front ← t.inPlace objects letter (n + 1)
    let (s, l) ← inPlaces objects (n + 2) l letters
    return (front ++ s, l)
  | n, l, letter :: letters => do
    let (s, l) ← inPlaces objects (n + 1) l letters
    return (letter ++ s, l)

/-- A text with a value in its places, which may be a tuple of values for them. One whose items have
keys need not be used. -/
def filledBy (objects : Objects) (s : String) (t : TypeValue) : Except Fault TypeValue := do
  let (l, isKeyed) := match t.opened with
    | row l => (l, false)
    | series l => ([series l], true)
    | other (.text s) => ([other (.text s)], false)
    | other (.dict es n) => ([other (.dict es n)], true)
    | other (.bytes bs) => ([other (.bytes bs)], true)
    | t => ([t], false)
  match ← inPlaces objects 0 l (Text.letters s) with
  | (s, []) => return other (.text s)
  | (s, _) => if isKeyed then return other (.text s) else throw .placeless

/-! ### What classes make -/

/-- The entries of a pair that a dictionary is made of. -/
def pairOf (objects : Objects) (index : Nat) (t : TypeValue) : Except Fault (Value × Value) := do
  match t.items objects with
  | .error _ => throw (.notPair index)
  | .ok [k, v] => return (← k.toValue objects, ← v.toValue objects)
  | .ok l => throw (.wrongPair index l.length)

/-- The entries that a dictionary is made of. -/
def entriesOf (objects : Objects) (t : TypeValue) : Except Fault (List (Value × Value)) := do
  match t with
  | other (.dict es _) => return es
  | t => (← t.items objects).zipIdx.mapM fun e => pairOf objects e.2 e.1

/-- The bytes that a byte string is made of. -/
def bytesOf (objects : Objects) (t : TypeValue) : Except Fault (List UInt8) := do
  match t with
  | other (.bytes bs) => return bs
  | other (.text _) => throw .codingNeeded
  | other v =>
    if let some n := v.integer? then
      let count ← Value.repetitions .noRoom 1 n
      if n < 0 then throw .negativeCount
      return List.replicate count 0
  | _ => pure ()
  (← t.items objects).mapM fun u => do
    let n ← u.asIndex
    if n < 0 || 255 < n then throw .noByte
    return UInt8.ofNat n.toNat

def complexOf (t : TypeValue) : Except Fault Value :=
  let zero := Double.ofMagnitude false 0
  let made (z : Complex) : Except Fault Value := .ok (.member "complex" z.text)
  match t with
  | other (.text s) =>
    (Complex.ofText? s).elim (.error .badComplex) made
  | other (.float x) => made ⟨x, zero⟩
  | other (.member "complex" s) => .ok (.member "complex" s)
  | t => match t.asIndex with
    | .ok n => made ⟨Double.ofDecimal (n < 0) ⟨n.natAbs, 0⟩, zero⟩
    | .error _ => .error (.notComplex t.typeName)

/-- The integer that is made of some arguments. -/
def intOf (objects : Objects) : List TypeValue → Except Fault Int
  | [] => .ok 0
  | [t] => do (← t.toValue objects).toInt objects
  | [t, base] => do
    let base ← base.asIndex
    let v ← t.toValue objects
    match v.characters? with
    | none => throw .baseOfNumber
    | some cs =>
      if base ≠ 0 && (base < 2 || 36 < base) then
        throw .noBase
      v.intOfText objects base.toNat cs
  | l => .error (.tooManyArguments "int" 2 l.length)

def madeBy (objects : Objects) (c : String) (args : List TypeValue) : Except Fault TypeValue := do
  let itemsGiven : Except Fault (List TypeValue) := do
    match ← optional c args with
    | none => return []
    | some t => t.items objects
  let distinctGiven : Except Fault (List Value) := do
    let given ← toValues objects (← itemsGiven)
    return Value.setOrder (← Value.distinct objects given)
  match c, args with
  | "type", [t] => return t.classOf
  | "type", _ => throw .typeArguments
  | "object", [] => return other (.member "object" "<object object at 0x>")
  | "object", _ => throw (.noArguments "object")
  | "bool", args => match ← optional c args with
    | none => return other (.bool false)
    | some t => return other (.bool (← t.truth objects))
  | "int", args => return other (.int (← intOf objects args))
  | "float", args => match ← optional c args with
    | none => return other (.float (Double.ofMagnitude false 0))
    | some t => return other (← (← t.toValue objects).toFloat objects)
  | "complex", [] => return other (.member "complex" "0j")
  | "complex", [t] => return other (← t.complexOf)
  | "str", [] => return other (.text "")
  | "str", [t] => return other (.text (← t.told objects))
  | "bytes", [] => return other (.bytes [])
  | "bytes", [t] => return other (.bytes (← t.bytesOf objects))
  | "list", _ => return series (← itemsGiven)
  | "tuple", _ => return row (← itemsGiven)
  | "set", _ => return other (.set (← distinctGiven))
  | "frozenset", _ => return other (.fixedSet (← distinctGiven))
  | "dict", args => match ← optional c args with
    | none => return other (.dict [])
    | some t => return other (.dict (← Value.distinctEntries objects (← t.entriesOf objects)))
  | "NoneType", [] => return other .null
  | "range", args =>
    if args.isEmpty then throw (.argumentCount c "at least " 1 0)
    let bounds ← args.mapM asIndex
    let shown := (if bounds.length = 1 then 0 :: bounds else bounds).map fun (n : Int) => toString n
    return other (.member c ("range(" ++ commaSeparated shown ++ ")"))
  | _, _ => throw (.notCallable "type")

/-! ### Functions -/

def sizeOf (objects : Objects) (t : TypeValue) : Except Fault Nat :=
  match t.opened with
  | row l | series l => .ok l.length
  | other (.object i c) => .error (match (Value.apply objects i "__len__") with
    | .ok _ => .lengthless c.name
    | .error f => f)
  | other (.feed _) => .error (.lengthless t.typeName)
  | other v => match v.items objects with
    | .ok l => .ok l.length
    | .error _ => .error (.lengthless v.typeName)
  | t => .error (.lengthless t.typeName)

/-- The greatest of some values by a comparison, of equal ones the first. -/
def extreme (objects : Objects) (sign : String) (best : TypeValue) :
    List TypeValue → Except Fault TypeValue
  | [] => .ok best
  | t :: l => do
    if ← t.compare objects sign best then extreme objects sign t l else extreme objects sign best l

def isOfClass (t : TypeValue) (c : String) : Bool :=
  match t.classOf with
  | cls d => (Value.classLine d).contains c
  | _ => c = "object"

/-- Whether a value is an object of one of the classes that another value stands for. -/
def isOf (t : TypeValue) : TypeValue → Except Fault Bool
  | cls c => .ok (t.isOfClass c)
  | other (.cls c) => match t.classOf with
    | other (.cls d) => .ok (c = d)
    | _ => .ok false
  | choice l => .ok (l.any fun u => match u with
    | cls c => t.isOfClass c
    | u => t.classOf.same u || (u.typeName = "NoneType" && t.typeName = "NoneType"))
  | row l => l.anyM fun u => match u with
    | cls c => .ok (t.isOfClass c)
    | _ => .error .notClasses
  | parts .. => .error .partsTested
  | _ => .error .notClasses

/-- The value of an attribute, or of what stands for it if there is none. -/
def attributeOr (scope : TypeScope) (t : TypeValue) (name : String) (absent? : Option TypeValue) :
    Except Fault TypeValue :=
  match t.partOf scope name, absent? with
  | .error f, some u => if f.kind = .attr then .ok u else .error f
  | found, _ => found

def codeOf (t : TypeValue) : Except Fault Int :=
  let wrong (n : Nat) : Except Fault Int :=
    .error (.notCharacter ("a character, but string of length " ++ toString n ++ " found"))
  match t with
  | other (.text s) => match Text.codes s with
    | [n] => .ok n
    | codes => wrong codes.length
  | other (.bytes bs) => match bs with
    | [b] => .ok b.toNat
    | bs => wrong bs.length
  | t => .error (.notCharacter ("string of length 1, but " ++ t.typeName ++ " found"))

/-- What a function that is known everywhere comes to, if it comes to anything. -/
def applied? (scope : TypeScope) (f : String) (args : List TypeValue) :
    Option (Except Fault TypeValue) :=
  let objects := scope.objects
  let int (n : Int) : TypeValue := other (.int n)
  let bool (b : Bool) : TypeValue := other (.bool b)
  let text (s : String) : TypeValue := other (.text s)
  let numeral (letter : Char) (base : Nat) : Except Fault TypeValue := do
    return text (Value.numeral letter base (← (← sole f args).asIndex))
  let ordered (sign : String) : Except Fault TypeValue := do
    let l ← match args with
      | [] => throw (.argumentCount f "at least " 1 0)
      | [t] => t.items objects
      | l => pure l
    match l with
    | [] => throw (.emptySequence f)
    | t :: l => extreme objects sign t l
  match f with
  | "abs" => some do
    let t ← sole f args
    let size? := match t with
      | other v => v.size?
      | _ => none
    match size? with
    | some v => return other v
    | none => throw (.sizeless t.typeName)
  | "len" => some do return int (← (← sole f args).sizeOf objects)
  | "repr" => some do return text (← (← sole f args).shown objects)
  | "ascii" => some do return text (escaped (← (← sole f args).shown objects))
  | "hex" => some (numeral 'x' 16)
  | "oct" => some (numeral 'o' 8)
  | "bin" => some (numeral 'b' 2)
  | "chr" => some do
    let n ← (← sole f args).asIndex
    if n < 0 || 0x10FFFF < n then throw .noCharacter
    return text (Text.ofCodes [n.toNat])
  | "ord" => some do return int (← (← sole f args).codeOf)
  | "any" => some do return bool (← (← (← sole f args).items objects).anyM (·.truth objects))
  | "all" => some do return bool (← (← (← sole f args).items objects).allM (·.truth objects))
  | "callable" => some do
    match ← sole f args with
    | cls _ | parts .. | other (.cls _) => return bool true
    | other v =>
      return bool (v.typeName = "builtin_function_or_method" || v.isCallable objects.rule)
    | _ => return bool false
  | "sum" => some do
    match args with
    | [t] => (← t.items objects).foldlM (fun sum u => sum.join "+" u) (int 0)
    | [t, start] => (← t.items objects).foldlM (fun sum u => sum.join "+" u) start
    | _ => throw .summandsNeeded
  | "max" => some (ordered ">")
  | "min" => some (ordered "<")
  | "sorted" => some do
    match args with
    | [t] =>
      let l ← Value.sorted objects (← toValues objects (← t.items objects))
      return series (l.map ofValue)
    | l => throw (.argumentCount f "" 1 l.length)
  | "isinstance" => some do
    match args with
    | [t, u] => return bool (← t.isOf u.opened)
    | l => throw (.argumentCount f "" 2 l.length)
  | "issubclass" => some do
    match args with
    | [cls c, cls d] => return bool ((Value.classLine c).contains d)
    | [cls _, _] => throw .classesNeeded
    | [_, _] => throw .classNeeded
    | l => throw (.argumentCount f "" 2 l.length)
  | "pow" => match args with
    | [t, u] => some (t.join "**" u)
    | _ => none
  | "divmod" => match args with
    | [t, u] => some do return row [← t.join "//" u, ← t.join "%" u]
    | _ => none
  | "getattr" => some do
    match args with
    | [t, name] => t.attributeOr scope (← name.asName) none
    | [t, name, absent] => t.attributeOr scope (← name.asName) (some absent)
    | l => throw (.argumentCount f (if l.length < 2 then "at least " else "at most ")
        (if l.length < 2 then 2 else 3) l.length)
  | "hasattr" => some do
    match args with
    | [t, name] =>
      return bool (← Fault.ifPresent (t.partOf scope (← name.asName))).isSome
    | l => throw (.argumentCount f "" 2 l.length)
  | _ => none

/-! ### Functions of texts -/

/-- A text without some characters around it, in front, behind it, or both. -/
def stripped (isAway : String → Bool) (front behind : Bool) (s : String) : String :=
  let letters := Text.letters s
  let letters := if front then letters.dropWhile isAway else letters
  String.join (if behind then (letters.reverse.dropWhile isAway).reverse else letters)

/-- The words of a text, between which there are blanks. -/
def wordsOf (s : String) : List String :=
  (s.toList.splitBy fun a b => Text.isBlankChar a = Text.isBlankChar b).filterMap fun cs =>
    if cs.all Text.isBlankChar then none else some (String.ofList cs)

/-- What a function of a text comes to, if it comes to anything. -/
def ofText? (objects : Objects) (s name : String) (args : List TypeValue) :
    Option (Except Fault TypeValue) :=
  let text (s : String) : Option (Except Fault TypeValue) := some (.ok (other (.text s)))
  let bool (b : Bool) : Option (Except Fault TypeValue) := some (.ok (other (.bool b)))
  let strip (front behind : Bool) : Option (Except Fault TypeValue) :=
    match args with
    | [] | [other .null] => text (stripped Text.isBlank front behind s)
    | [other (.text away)] => text (stripped ((Text.letters away).contains ·) front behind s)
    | _ => none
  match name, args with
  | "upper", [] => text (Text.upper s)
  | "lower", [] => text (Text.lower s)
  | "strip", _ => strip true true
  | "lstrip", _ => strip true false
  | "rstrip", _ => strip false true
  | "replace", [other (.text a), other (.text b)] =>
    if a.isEmpty then none else text (b.intercalate (s.splitOn a))
  | "removeprefix", [other (.text a)] =>
    text (if a.toList.isPrefixOf s.toList then String.ofList (s.toList.drop a.length) else s)
  | "removesuffix", [other (.text a)] =>
    text (if a.toList.isSuffixOf s.toList then
      String.ofList (s.toList.take (s.length - a.length)) else s)
  | "startswith", [other (.text a)] => bool (a.toList.isPrefixOf s.toList)
  | "endswith", [other (.text a)] => bool (a.toList.isSuffixOf s.toList)
  | "split", [] | "split", [other .null] =>
    some (.ok (series ((wordsOf s).map fun w => other (.text w))))
  | "split", [other (.text a)] =>
    if a.isEmpty then some (.error .emptySeparator)
    else some (.ok (series ((s.splitOn a).map fun w => other (.text w))))
  | "join", [t] => some do
    let l ← (← t.items objects).zipIdx.mapM fun e => match e.1 with
      | other (.text s) => .ok s
      | u => .error (.itemNotText e.2 u.typeName)
    return other (.text (s.intercalate l))
  | _, _ => none

/-- What a function that a value has comes to, if it comes to anything. -/
def ofMethod? (objects : Objects) (t : TypeValue) (name : String) (args : List TypeValue) :
    Option (Except Fault TypeValue) :=
  match t, name, args with
  | other (.text s), name, args => ofText? objects s name args
  | cls c, "mro", [] =>
    if c = "type" then none else some (.ok (series ((Value.classLine c).map cls)))
  | _, _, _ => none

/-! ### Calls -/

def functionName? : TypeValue → Option String
  | other (.member "builtin_function_or_method" shown) =>
    let front := "<built-in function ".toList
    let cs := shown.toList
    if front.isPrefixOf cs then some (String.ofList ((cs.drop front.length).dropLast)) else none
  | _ => none

/-- What calling a value comes to, with arguments and such that have names. -/
def called (scope : TypeScope) (t : TypeValue) (args : List TypeValue)
    (named : List (String × TypeValue)) : Except Fault TypeValue := do
  match t, named with
  | cls "dict", named => match ← madeBy scope.objects "dict" args with
    | other (.dict es _) =>
      let further ← named.mapM fun e => do return (Value.text e.1, ← e.2.toValue scope.objects)
      return other (.dict (← Value.distinctEntries scope.objects (es ++ further)))
    | made => return made
  | cls c, [] | parts c _, [] => madeBy scope.objects c args
  | cls c, _ :: _ =>
    if (Value.sample? c).isSome then throw (.noKeywords c) else throw (.notCallable t.typeName)
  | t, named => match functionName? t with
    | none => throw (.notCallable t.typeName)
    | some f =>
      if !named.isEmpty then throw (.noKeywords f)
      (applied? scope f args).getD (.error (.notCallable t.typeName))

end TypeValue

end RecordSql
