import RecordSql.World.Attributes

/-! The texts and keys of objects, which their classes give them. -/

namespace RecordSql.World

/-- The objects of a world as values ask for them, given their texts and keys. -/
def viewWith (w : World) (shown : ObjectText) (told : Nat → Except Fault String)
    (key : ObjectKey) : Objects :=
  ⟨shown, told, key, w.read, w.rules, w.items?⟩

/-! ### Helpers -/

/-- A helper of an object can be called unless the object or its class hides it. -/
def requireHelper (w : World) (o : Instance) (name : String) : Except Fault Unit := do
  let found ← w.readInstance o name
  match w.member? o.cls name, o.own? name with
  | some (.routine ..), none => return ()
  | _, _ => throw (found.uncallable w.rules)

/-- The variables of an object that are columns of a table, in the order of the columns. -/
def plainOf (w : World) (objects : Objects) (t : Table) (o : Instance) :
    Except Fault (List (String × Value)) :=
  match w.readInstance o "__dict__" with
  | .ok (.dict es _) => .ok (t.propertyKeys.filterMap fun key =>
      (Value.lookup? es key).map fun v => (key, v))
  | .ok v => do
    let cells ← t.propertyKeys.mapM fun key => do
      if ← v.contains objects key then return some (key, ← v.item key) else return none
    return cells.filterMap id
  | .error f => .error (if f.kind = .attr then .noVariables else f)

/-! ### Texts -/

/-- Attributes with the given values. -/
def partTexts (text : ObjectText) (running : Running) (parts : List (String × Value)) :
    Except Fault (List String) :=
  parts.mapM fun e => do return e.1 ++ "=" ++ (← e.2.shownWith text running)

/-- Attributes with the values that an object must have for them. -/
def fieldTexts (w : World) (text : ObjectText) (running : Running) (o : Instance)
    (names : List String) : Except Fault (List String) :=
  names.mapM fun name => do
    return name ++ "=" ++ (← (← w.readInstance o name).shownWith text running)

/-- An entry of what a validated object holds. An entry that is the object itself is only named. -/
def entryText (text : ObjectText) (running : Running) (i : Nat) (e : Value × Value) :
    Except Fault String := do
  let value : Except Fault String := match e.2 with
    | .object j c =>
      if i = j then .ok (Text.quoted ("<Recursion on " ++ c.name ++ " with id=0>"))
      else e.2.shownWith text running
    | v => v.shownWith text running
  match e.1 with
  | .null => value
  | .text name => return name ++ "=" ++ (← value)
  | key => return (← key.shownWith text running) ++ "=" ++ (← value)

/-- Whether a variable is shown by what an object tells of its fields. -/
def showsVariable (w : World) (told : Value) (name : Value) : Except Fault Bool :=
  match told with
  | .dict es _ => match (name.text?.bind (Value.lookup? es)).filter (·.truthy) with
    | none => .ok false
    | some f =>
      if f.typeName = "FieldInfo" then .ok true
      else (w.attributeOf f "repr").map (·.truthy)
  | told => w.calling told "get"

/-- The fields of a validated object that it holds, and what it holds beyond them. It tells of no
fields that are computed. -/
def validatedEntries (w : World) (o : Instance) : Except Fault (List (Value × Value)) := do
  let computed ← w.entriesOf (← w.readInstance o "__pydantic_computed_fields__")
  computed.forM fun e => (w.attributeOf e.2 "repr").map fun _ => ()
  let vars ← w.entriesOf (← w.readInstance o "__dict__")
  let fields ← vars.filterM fun e => do w.showsVariable (← w.readInstance o toldFields) e.1
  let extra ← match ← Fault.ifPresent (w.readPlain o extraSlot) with
    | none | some .null => pure []
    | some v => w.entriesOf v
  return fields ++ extra

/-- What a validated object holds, with a separator between each two. -/
def validatedText (w : World) (text : ObjectText) (running : Running) (i : Nat) (o : Instance)
    (separator : String) : Except Fault String := do
  w.requireHelper o "__repr_str__"
  w.requireHelper o "__repr_args__"
  return separator.intercalate (← (← w.validatedEntries o).mapM (entryText text running i))

def plainText (c : RecordClass) : String := "<" ++ c.label ++ " object at 0x>"

def className (w : World) (text : ObjectText) (o : Instance) (attr : String) :
    Except Fault String := do
  let objects := w.viewWith text (text []) fun i => .ok (.atom (.object i))
  (← (← w.readInstance o "__class__").attr objects attr).written objects

/-- The text of an entity: the columns of its table, if the class has one in its registry. -/
def entityText? (w : World) (text : ObjectText) (running : Running) (o : Instance) :
    Except Fault (Option String) := do
  let objects := w.viewWith text (text []) fun i => .ok (.atom (.object i))
  let r ← w.usableRegistry objects o.cls "has_table"
  match w.tableIn? objects o.cls r with
  | none => return none
  | some t => do
    w.requireHelper o "to_plain"
    let parts ← partTexts text running (← w.plainOf objects t o)
    return some ((w.cls o.cls).name ++ "(" ++ commaSeparated parts ++ ")")

/-- The text of an object by the rules of the given classes: an entity shows the columns of its
table, a constructor its fields, and a validated object what it holds. -/
def textBy (w : World) (text : ObjectText) (running : Running) (i : Nat) (o : Instance) :
    List Nat → Except Fault String
  | [] => .ok (plainText (w.cls o.cls))
  | c :: cs => do
    let cls := w.cls c
    match Assoc.get? cls.members "__repr__", cls.fields? with
    | none, _ => textBy w text running i o cs
    | some (.routine ..), some fields =>
      if running.contains (.object i) then return "..."
      else
        let name ← w.className text o "__qualname__"
        let parts ← w.fieldTexts text (.object i :: running) o (fieldNames fields)
        return name ++ "(" ++ commaSeparated parts ++ ")"
    | some (.routine ..), none =>
      if c = helpers then match ← w.entityText? text running o with
        | some t => return t
        | none => textBy w text running i o cs
      else if c = validator then
        w.requireHelper o "__repr_name__"
        let name ← w.className text o "__name__"
        return name ++ "(" ++ (← w.validatedText text running i o ", ") ++ ")"
      else return plainText (w.cls o.cls)
    | some m, _ =>
      match w.ofMember o "__repr__" m with
      | .ok found => throw (found.uncallable w.rules)
      | .error _ => return "<" ++ (w.cls o.cls).name ++ " object at 0x>"

/-- How deep objects may lie inside each other to be written. -/
def textDepth : Nat := 330

/-- The text of an object whose parts lie at most `depth` objects deep. -/
def textWithin (w : World) : Nat → ObjectText
  | 0, _, _ => .error (.tooDeep "")
  | depth + 1, running, i => match w.object? i with
    | none => .ok ""
    | some o => w.textBy (w.textWithin depth) running i o (w.ancestors o.cls)

def objectText (w : World) : ObjectText := w.textWithin textDepth

/-- The text of an object on its own. A validated one shows its parts alone. -/
def objectTold (w : World) (i : Nat) : Except Fault String :=
  match w.object? i with
  | none => .ok ""
  | some o => do
    w.applyRule o "__str__"
    match w.owner? o.cls "__str__" with
    | some (c, _) =>
      if c = validator then w.validatedText (w.textWithin textDepth) [] i o " "
      else w.objectText [] i
    | none => w.objectText [] i

/-! ### Keys -/

/-- What stands for an object as a key: itself, or the values of some of its attributes or of its
validated fields; or nothing. -/
inductive Keying where
  | itself
  | attributes (names : List String)
  | fields (names : List String)
  | never (f : Fault)

/-- What stands for an object as a key, by what its class has in the place of the function that
makes keys. -/
def keying (w : World) (o : Instance) : Keying :=
  let c := w.cls o.cls
  match w.owner? o.cls "__hash__" with
  | none => .itself
  | some (a, .routine ..) => match (w.cls a).fields?, (w.cls a).schema? with
    | some fields, _ => .attributes (fieldNames fields)
    | none, some schema => .fields (fieldNames schema.fields)
    | none, none => .itself
  | some (_, m) => match w.ofMember o "__hash__" m with
    | .ok .null | .error _ => .never (.unhashable c.name)
    | .ok v => .never (v.uncallable w.rules)

/-- The key of a validated object: its fields, which must be keys, and what equals only its like, be
it held beyond the fields or hidden. A field that is missing is told from one that is null. -/
def validatedKey (w : World) (key : ObjectKey) (o : Instance) (names : List String) :
    Except Fault Key := do
  let fields ← names.mapM fun name => match o.own? name with
    | some v => v.keyWith key false
    | none => .ok (.atom .absent)
  let place := fields.foldl Key.joined (.atom (.record o.cls names.length))
  let other (i : Nat) : Except Fault Key := .ok ((key i).toOption.getD (.atom (.object i)))
  let beyond ← [extraSlot, hiddenSlot].mapM fun slot =>
    ((w.readInstance o slot).toOption.getD .null).keyWith other true
  return beyond.foldl Key.toldBy place

/-- The key of an object whose parts lie at most `depth` objects deep. -/
def keyWithin (w : World) : Nat → ObjectKey
  | 0, _ => .error (.tooDeep "")
  | depth + 1, i => match w.object? i with
    | none => .ok (.atom (.object i))
    | some o => match w.keying o with
      | .itself => .ok (.atom (.object i))
      | .attributes names => do
        let values ← names.mapM (w.readInstance o)
        return .under (.record o.cls values.length)
          (← Value.keysWith (w.keyWithin depth) false values)
      | .fields names => w.validatedKey (w.keyWithin depth) o names
      | .never f => .error f

/-- The key of an object. No chain of different objects is longer than their number. -/
def objectKey (w : World) : ObjectKey := w.keyWithin (w.objects.length + 1)

/-! ### View -/

def view (w : World) : Objects := w.viewWith w.objectText w.objectTold w.objectKey

def classAttribute? (w : World) (c : Nat) (name : String) : Except Fault (Option Value) :=
  Fault.ifPresent (w.readClass w.view c name)

def classAttributeOr (w : World) (c : Nat) (name : String) (absent : Value) :
    Except Fault Value := do
  return (← w.classAttribute? c name).getD absent

/-- What statements over a registry are built from. -/
def context (w : World) (r : Nat) (operators : Operators) : Context :=
  ⟨w.registry r, operators, w.view, w.scope⟩

end RecordSql.World
