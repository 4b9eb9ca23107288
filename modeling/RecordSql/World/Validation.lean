import RecordSql.World.Making
import RecordSql.World.Settings

/-! Validation of values for types with parts, and of records.

Of several types the one is chosen that a value fits best. A record is an object of its class, or is
made of a dictionary or of the attributes of another object; its fields are validated in turn, as
many records deep as there may be. -/

namespace RecordSql.World

/-! ### Going through values -/

/-- What going through a value yields, and whether it ends in a fault behind that. -/
structure Run where
  items : List Value
  fails : Bool := false

/-- What going through a value yields where a collection is asked for; no dictionary and no text is
one. -/
def heldItems (w : World) (why : Rejection) (v : Value) : Except Rejection Run :=
  match v with
  | .list items _ | .tuple items _ | .set items _ | .fixedSet items _ => .ok { items }
  | .object i _ => match w.rules i "__iter__", w.object? i with
    | .usual, some o =>
      if w.isValidated o.cls then match w.validatedItems o with
        | .ok items => .ok { items }
        | .error _ => .ok ⟨(w.openItems o).toOption.getD [], true⟩
      else match w.rules i "__getitem__" with
        | .usual => .error why
        | _ => .ok ⟨[], true⟩
    | _, _ => .error why
  | _ => .error why

/-- Draws the items of a value where a collection is asked for; of a feed no more than so many. -/
def runOf (why : Rejection) (most? : Option Nat) (v : Value) :
    Action World (Except Rejection Run) := do
  match v with
  | .feed i => drawing do
    let left := (← Action.get).getD i []
    let items := most?.elim left left.take
    Action.modify fun feeds => feeds.set i (left.drop items.length)
    return .ok { items }
  | v => return (← Action.get).heldItems why v

/-- Whether a value is a collection of the kind that a reason is about. -/
def isOfKind : Rejection → Value → Bool
  | .listType, .list .. | .tupleType, .tuple .. | .setType, .set .. => true
  | .fixedSetType, .fixedSet .. => true
  | _, _ => false

def checkItems (check : Value → Grade → Action World Validated) :
    Nat → Parts Value → List Value → Action World (Parts Value)
  | _, ps, [] => pure ps
  | n, ps, v :: l => do
    let r ← check v ps.grade
    checkItems check (n + 1) (ps.adding (r.within (toString n))) l

/-- What becomes of a collection, given what became of its items. -/
def collection (run : Run) (make : List Value → Value) (ps : Parts Value) : Validated :=
  if run.fails then .error [⟨[toString run.items.length], .iteration⟩] else ps.made make

/-- A valid value has to be a key where it is an item of a set. -/
def asItem (r : Validated) : Action World Validated := do
  match r with
  | .error problems => return .error problems
  | .ok (v, g) => match v.key (← Action.get).view with
    | .ok _ => return .ok (v, g)
    | .error f => if f.kind = .type then return refused .itemNotKey else Action.faulty f

def distinctSet (make : List Value → Value) (r : Validated) : Action World Validated := do
  match r with
  | .ok (.list l _, g) =>
    return .ok (make (Value.setOrder (← Value.distinct (← Action.get).view l)), g)
  | r => return r

def keyName (w : World) (key : Value) : String :=
  match key with
  | .text s => String.ofList ((Text.codes s).flatMap fun n =>
      if Text.isSurrogate n then List.replicate 3 '\uFFFD' else Text.charsOf n)
  | .bool b => if b then "1" else "0"
  | key => match key.shown w.view with
    | .ok s => s
    | .error _ => "<unprintable " ++ key.classOf.qualname ++ " object>"

/-- Validates an entry of a dictionary, whose key has to be one when it is valid. -/
def checkEntry (key value : Value → Grade → Action World Validated) (e : Value × Value)
    (g : Grade) : Action World (Graded (Value × Value)) := do
  let name := (← Action.get).keyName e.1
  match (← key e.1 g).within "[key]" with
  | .ok (k, g) => match ← value e.2 g with
    | .ok (v, g) => do
      let _ ← k.key (← Action.get).view
      return .ok ((k, v), g)
    | .error problems => return .within name (.error problems)
  | .error ofKey => match ← value e.2 g with
    | .ok _ => return .within name (.error ofKey)
    | .error ofValue => return .within name (.error (ofKey ++ ofValue))

def checkEntries (check : Value × Value → Grade → Action World (Graded (Value × Value))) :
    Parts (Value × Value) → List (Value × Value) → Action World (Parts (Value × Value))
  | ps, [] => pure ps
  | ps, e :: es => do checkEntries check (ps.adding (← check e ps.grade)) es

/-! ### Types -/

/-- How the values of the fields of a class are validated: by its rules; whether values are taken
strictly by what they are part of, be it against the rules of other classes; and how records of
other classes are validated. -/
structure Checking where
  rules : Validation
  owner : Nat
  isForced : Bool
  record : Bool → Nat → Value → Grade → Action World Validated

namespace Checking

/-- What a value yields where a collection is asked for, of a feed no more than so many items, and
the grade of the value itself. -/
def items (cx : Checking) (why : Rejection) (most? : Option Nat) (v : Value) (g : Grade) :
    Action World (Graded Run) := do
  if !isOfKind why v && cx.rules.strict then return refused why
  else
    let g := if isOfKind why v then g else g.floored .lax
    match ← runOf why most? v with
    | .ok run => return .ok (run, g)
    | .error why => return refused why

/-- The name of a type among others to choose from. -/
def label (cx : Checking) (t : FieldType) : String := t.label cx.rules.constrainsTexts cx.owner

mutual

def check (cx : Checking) : FieldType → Value → Grade → Action World Validated
  | .any, v, g => pure (.ok (v, g.floored .strict))
  | .null, v, g => pure (if v.isNull then .ok (.null, g) else refused .nullNeeded)
  | .bool, v, g => pure ((cx.rules.checkBool v).after g)
  | .int, v, g => pure ((cx.rules.checkInt v).after g)
  | .float, v, g => pure ((cx.rules.checkFloat v).after g)
  | .text, v, g => pure ((cx.rules.checkText v).after g)
  | .complex, v, g => pure ((cx.rules.checkComplex v).after g)
  | .bytes, v, g => pure ((cx.rules.checkBytes v).after g)
  | .never why _, _, _ => pure (refused why)
  | .list .any, v, g => do
    match ← cx.items .listType none v g with
    | .error problems => return .error problems
    | .ok (run, g) => return collection run .list { valid := run.items, grade := g }
  | .list t, v, g => do
    match ← cx.items .listType none v g with
    | .error problems => return .error problems
    | .ok (run, g) =>
      let checked ← checkItems (fun v g => check cx t v g) 0 { grade := g } run.items
      return collection run .list checked
  | .row t, v, g => do
    match ← cx.items .tupleType none v g with
    | .error problems => return .error problems
    | .ok (run, g) =>
      return collection run .tuple
        (← checkItems (fun v g => check cx t v g) 0 { grade := g } run.items)
  | .tuple types, v, g => do
    match ← cx.items .tupleType (some (types.length + 1)) v g with
    | .error problems => return .error problems
    | .ok (run, g) =>
      let ps ← checkEach cx 0 { grade := g } types run.items
      let needed := types.length
      let given := run.items.length
      if needed < given || (needed = given && run.fails) then return refused .tooLong
      else if run.fails then return .error [⟨[toString given], .iteration⟩]
      else return ps.made .tuple
  | .set t, v, g => do
    match ← cx.items .setType none v g with
    | .error problems => return .error problems
    | .ok (run, g) =>
      let ps ← checkItems (fun v g => do asItem (← check cx t v g)) 0 { grade := g } run.items
      distinctSet .set (collection run .list ps)
  | .fixedSet t, v, g => do
    match ← cx.items .fixedSetType none v g with
    | .error problems => return .error problems
    | .ok (run, g) =>
      let ps ← checkItems (fun v g => do asItem (← check cx t v g)) 0 { grade := g } run.items
      distinctSet .fixedSet (collection run .list ps)
  | .dict key value, v, g => do
    match v with
    | .dict es _ =>
      let ps ← checkEntries
        (checkEntry (fun v g => check cx key v g) fun v g => check cx value v g) { grade := g } es
      match ps.made id with
      | .ok (es, g) =>
        return .ok (.dict (← Value.distinctEntries (← Action.get).view es), g)
      | .error problems => return .error problems
    | _ => return refused .dictType
  | .union types, v, g => checkChoices { cx with isForced := cx.rules.strict } v g none [] types
  | .optional t, v, g => if v.isNull then pure (.ok (.null, g)) else check cx t v g
  | .record c _, v, g => cx.record cx.isForced c v g
  | .objectOf c _, v, g => do
    match v with
    | .object i _ =>
      let w ← Action.get
      let isOne := (w.object? i).any fun o => (w.ancestors o.cls).contains c
      return if isOne then .ok (v, g) else refused .otherClass
    | _ => return refused .otherClass

/-- Validates items for types, one by one from a number on. Types that there are no items for miss
theirs. -/
def checkEach (cx : Checking) :
    Nat → Parts Value → List FieldType → List Value → Action World (Parts Value)
  | _, ps, [], _ => pure ps
  | n, ps, _ :: types, [] =>
    checkEach cx (n + 1) (ps.adding (.within (toString n) (refused .missing))) types []
  | n, ps, t :: types, v :: l => do
    let r ← check cx t v ps.grade
    checkEach cx (n + 1) (ps.adding (r.within (toString n))) types l

/-- Validates a value for one of several types, after others of a grade, given the best result for
the types before and what is wrong with the value for them. A perfect fit ends the search, and the
grade of what was before it is forgotten. -/
def checkChoices (cx : Checking) (v : Value) (before : Grade) (best? : Option (Value × Grade))
    (problems : List Problem) : List FieldType → Action World Validated
  | [] => pure (best?.elim (.error problems) fun b => .ok (b.1, before.joined b.2))
  | t :: types => do
    match (← check cx t v {}).within (cx.label t) with
    | .ok (w, g) =>
      if g.isPerfect then return .ok (w, g)
      let isBetter := best?.all fun b => b.2.isBelow g
      checkChoices cx v before (if isBetter then some (w, g) else best?) problems types
    | .error more =>
      let problems := if best?.isSome then problems else problems ++ more
      checkChoices cx v before best? problems types

end

end Checking

/-! ### Records -/

/-- Where the values of fields come from: the entries of a dictionary, or the attributes of a value
with some entries that go before them. -/
inductive FieldSource where
  | entries (es : List (Value × Value))
  | attributes (v : Value) (first : List (Value × Value))

namespace FieldSource

def value? (s : FieldSource) (name : String) : Action World (Graded (Option Value)) := do
  match s with
  | .entries es => return .ok (Value.lookup? es name, {})
  | .attributes v first => match Value.lookup? first name with
    | some v => return .ok (some v, {})
    | none => match (← Action.get).attributeOf v name with
      | .ok v => return .ok (some v, {})
      | .error f =>
        if f.kind = .attr then return .ok (none, {})
        else return .within name (refused .attributeFault)

end FieldSource

/-- The valid values of the fields of a record; what it has beyond its fields, if that is kept; and
the names of all that was given. -/
structure RecordParts where
  vars : List (String × Value)
  extra? : Option (List (Value × Value))
  names : List Value

namespace RecordParts

def object (ps : RecordParts) (cls : Nat) (schema : Schema) (names : Value) :
    Action World Instance :=
  finished cls schema
    [("__dict__", dictOf ps.vars), (extraSlot, ps.extra?.elim .null .dict), (hiddenSlot, .null),
      (givenSlot, names)] []

end RecordParts

/-- Validates a field: its value, and whether it was given. Start values are valid, unless the
settings say otherwise. -/
def checkField (cx : Checking) (schema : Schema) (source : FieldSource) (f : Field) (g : Grade) :
    Action World (Graded (Field × Value × Bool)) := do
  let type := (Assoc.get? schema.types f.name).getD .any
  let checked (v : Value) (isGiven : Bool) : Action World (Graded (Field × Value × Bool)) := do
    return ((← cx.check type v g).within f.name).map fun r => ((f, r.1, isGiven), r.2)
  match ← source.value? f.name with
  | .error problems => return .error problems
  | .ok (some v, _) => checked v true
  | .ok (none, _) => match ← started false f with
    | none => return .within f.name (refused .missing)
    | some (_, v) => match setting schema.settings "validate_default" with
      | .bool true => checked v false
      | _ => return .ok ((f, v, false), g)

def checkFields (cx : Checking) (schema : Schema) (source : FieldSource) :
    Parts (Field × Value × Bool) → List Field → Action World (Parts (Field × Value × Bool))
  | ps, [] => pure ps
  | ps, f :: fields => do
    checkFields cx schema source (ps.adding (← checkField cx schema source f ps.grade)) fields

def furtherEntries (schema : Schema) (source : FieldSource) : List (Value × Value) :=
  match schema.extra, source with
  | .ignore, _ | _, .attributes .. => []
  | _, .entries es => es.filter fun e => !(e.1.text?.any schema.declares)

/-- What is wrong with an entry beyond the fields. -/
def furtherProblem? (w : World) (schema : Schema) (e : Value × Value) : Option Problem :=
  let why? : Option Rejection := match e.1 with
    | .text _ => if schema.extra = .forbid then some .extraForbidden else none
    | _ => some .keyType
  why?.map fun why => ⟨[w.keyName e.1], why⟩

def checkRecordParts (cx : Checking) (schema : Schema) (source : FieldSource) (g : Grade) :
    Action World (Graded RecordParts) := do
  let ps ← checkFields cx schema source { grade := g } schema.fields
  let further := furtherEntries schema source
  let w ← Action.get
  let ps := { ps with problems := ps.problems ++ further.filterMap (w.furtherProblem? schema) }
  let given := (ps.valid.filter (·.2.2)).map fun c => Value.text c.1.name
  let made : Graded RecordParts := ps.made fun cells =>
    { vars := cells.map fun c => (c.1.name, c.2.1)
      extra? := if schema.extra = .allow then some further else none
      names := given ++ further.map (·.1) }
  return made.map fun r => (r.1, r.2.withGiven given.length)

/-- Whether the attributes of a value may be those of a record: by the module of its class. -/
def tellsFields (w : World) (v : Value) : Bool :=
  match v.classOf with
  | .plain name => (ClassRef.homes.lookup name).isSome
  | .declared c .. => match w.readClass w.view c "__module__" with
    | .ok (.text home) => !List.contains ["builtins", "datetime", "collections"] home
    | _ => false

/-- Where the fields of a record come from that is made of a value. -/
def sourceOf (w : World) (schema : Schema) (v : Value) : Except Rejection FieldSource :=
  let isOpen := match setting schema.settings "from_attributes" with
    | .bool b => b
    | _ => false
  match v with
  | .dict es _ => .ok (.entries es)
  | v =>
    if !isOpen then .error .recordType
    else match v with
      | .tuple [v, .dict es _] _ =>
        if w.tellsFields v then .ok (.attributes v es) else .error .recordSource
      | v => if w.tellsFields v then .ok (.attributes v []) else .error .recordSource

/-- Whether an object is one of a class, as far as the class can tell. -/
def isObjectOf (w : World) (o : Instance) (c : Nat) : Bool :=
  o.cls = c ||
    ((w.ancestors o.cls).contains c && (w.readInstance o "__pydantic_decorators__").isOk)

/-- Whether an object of a class is validated anew where one is asked for. -/
def isRenewed (schema : Schema) (o : Instance) (c : Nat) : Bool :=
  match setting schema.settings "revalidate_instances" with
  | .text "always" => true
  | .text "subclass-instances" => o.cls ≠ c
  | _ => false

/-- Validates the parts of an object anew, of which another one is made. -/
def renewed (cx : Checking) (c : Nat) (schema : Schema) (o : Instance) (g : Grade) :
    Action World Validated := do
  let w ← Action.get
  let names ← w.readInstance o givenSlot
  let vars ← w.readInstance o "__dict__"
  let all ← match ← w.readInstance o extraSlot with
    | .null => pure vars
    | extra => match vars, extra with
      | .dict es _, .dict fs _ => pure (.dict (← Value.distinctEntries w.view (es ++ fs)))
      | .dict .., v | v, _ => Action.faulty (.notConverted v.typeName "PyDict")
  match w.sourceOf schema all with
  | .error why => return refused why
  | .ok source => match ← checkRecordParts cx schema source g with
    | .error problems => return .error problems
    | .ok (ps, g) => return .ok (← added (← ps.object c schema names), g)

/-- Validates a record of a class that is no object of it. -/
def checkMade (cx : Checking) (c : Nat) (schema : Schema) (v : Value) (g : Grade) :
    Action World Validated := do
  let w ← Action.get
  if cx.rules.strict then return refused .recordType
  match w.sourceOf schema v with
  | .error why => return refused why
  | .ok source => match ← checkRecordParts cx schema source (g.floored .lax) with
    | .error problems => return .error problems
    | .ok (ps, g) => do
      w.checkMaking c false
      return .ok (← added (← ps.object c schema (.set ps.names)), g)

/-- Validates a record of a class where there may be so many more records around each other, given
the objects around it with the classes that they are taken for. -/
def checkRecord : Nat → List (Nat × Nat) → Bool → Nat → Value → Grade → Action World Validated
  | 0, _, _, _, _, _ => pure (refused .recursion)
  | depth + 1, around, isForced, c, v, g => do
    let w ← Action.get
    let object? := match v with
      | .object i _ => (w.object? i).map fun o => (i, o)
      | _ => none
    if object?.any fun o => around.contains (o.1, c) then return refused .recursion
    let around := (object?.map fun o => (o.1, c)).toList ++ around
    match (w.cls c).schema? with
    | none => return refused .recordType
    | some schema =>
      let rules := validation schema.settings
      let cx : Checking :=
        { rules := { rules with strict := rules.strict || isForced }
          owner := c
          isForced
          record := checkRecord depth around }
      match object? with
      | some (_, o) =>
        if !w.isObjectOf o c then checkMade cx c schema v g
        else if isRenewed schema o c then renewed cx c schema o g
        else return .ok (v, g)
      | none => checkMade cx c schema v g

/-- How many records there may be around each other. -/
def recordDepth : Nat := 253

/-- How the fields of a class are validated, given the objects around them with the classes that
they are taken for. -/
def checking (c : Nat) (schema : Schema) (around : List (Nat × Nat)) : Checking where
  rules := validation schema.settings
  owner := c
  isForced := false
  record := checkRecord recordDepth around

def refuseAll {α : Type} (problems : List Problem) : Action World α :=
  Action.faulty (.rejected (problems.map Problem.told))

end RecordSql.World
