import RecordSql.Record.Ancestors
import RecordSql.World.Display

/-! Drafts of classes: what every class body is held to, whatever becomes of its fields.

The bases lay out the objects, slots take the place of variables, names are checked, the ancestors
are put in order, the values of the body are told their names, and an ancestor may look at the new
class. -/

namespace RecordSql.World

/-! ### Bases -/

/-- A base that is named twice. -/
def repeated? : List Nat → Option Nat
  | [] => none
  | c :: l => if l.contains c then some c else repeated? l

/-- The ancestors of a new class: no base may be named twice, and there must be an order of them
all. -/
def ancestorsOver (w : World) (c : Nat) (bases : List Nat) : Except Fault (List Nat) :=
  match repeated? bases with
  | some b => .error (.duplicateBase (w.cls b).name)
  | none => match Ancestors.linearise c bases w.ancestors with
    | .error fronts => .error (.inconsistentBases (fronts.map fun b => (w.cls b).name))
    | .ok order => .ok order

/-- The bases of a class that names none. -/
def basesOf (shape : Shape) (bases : List Nat) : List Nat :=
  match shape, bases with
  | .validated .., [] => [validator]
  | _, [] => [root]
  | _, bases => bases

/-- The ancestors may have something in the place of the function that they look at new classes
with. -/
def checkFollowing (w : World) (ancestors : List Nat) : Except Fault Unit :=
  let rule := "__init_subclass__"
  match ancestors.findSome? fun a => Assoc.get? (w.cls a).members rule with
  | none | some (.routine ..) => .ok ()
  | some m => do
    let found ← m.ofClass w.view default [] rule
    throw (w.uncallable found)

/-! ### Slots and names -/

/-- The slots that a class body declares: one, or the items of a value. -/
def slotsGiven (shape : Shape) (members : Assoc String Member) :
    Action World (Option (List Value)) := do
  let w ← Action.get
  match shape, Assoc.get? members "__slots__" with
  | .slotted slots, _ => return some (slots.map .text)
  | _, some m => do
    match ← m.ofBody w.view default [] "__slots__" with
    | .text s => return some [.text s]
    | v => return some (← drawing (v.elements w.view))
  | _, none => return none

/-- The names of the slots that a class declares over a base, under which no members stand. -/
def slotsOver (w : World) (name : String) (base : Nat) (members : Assoc String Member)
    (given : List Value) : Except Fault (List String) := do
  let slots ← checkSlots (w.hasVariables base) (w.hasLinks base) given
  checkConflicts ("__module__" :: "__slots__" :: Assoc.keys members) (slotNames name slots)
  return slots

/-- The name with the place of a declaration that a body gives itself. -/
def qualnameGiven (w : World) (members : Assoc String Member) (qualname : String) :
    Except Fault String := do
  match Assoc.get? members "__qualname__" with
  | none => return qualname
  | some m => match ← m.ofBody w.view default [] "__qualname__" with
    | .text s => return s
    | v => throw (.badQualname v.typeName)

/-- A body has nothing under the name by which its functions would know the class. -/
def checkCell (w : World) (members : Assoc String Member) : Except Fault Unit := do
  match Assoc.get? members "__classcell__" with
  | none => return ()
  | some m =>
    let found ← m.ofBody w.view default [] "__classcell__"
    throw (.badCell found.classOf)

/-- A value of a body is told its name if its class has something for that, which is no function. -/
def checkNaming (w : World) (cls : String) : List (String × Member) → Except Fault Unit
  | [] => .ok ()
  | (name, .constant (.object i c)) :: members =>
    let rule := "__set_name__"
    match (w.object? i).bind fun o => (w.member? o.cls rule).map ((o, ·)) with
    | none => checkNaming w cls members
    | some (o, m) => do
      let _ ← w.ofMember o rule m
      throw (.namingFailed c.name name cls)
  | _ :: members => checkNaming w cls members

/-! ### Drafts -/

def withClass (w : World) (c : RecordClass) : World := { w with classes := w.classes ++ [c] }

/-- The members of a drafted class: those of its body, its slots, and what every class has. -/
def draftMembers (name : String) (slots? : Option (List String)) (addsLinks addsVariables : Bool)
    (members : Assoc String Member) : Assoc String Member :=
  let slots := slotNames name (slots?.getD [])
  let own := ("__module__", .constant (.text "app")) :: Assoc.erase members "__qualname__" ++
    slots.map fun s => (s, Member.slot)
  let own := united own
  let own := match slots? with
    | some l => withDefault own "__slots__" (.constant (.tuple (l.map .text)))
    | none => own
  let own := withDefault (withKeying own) "__doc__" (.constant .null)
  let own := if addsVariables then withDefault own "__dict__" .ownVariables else own
  if addsLinks then withDefault own "__weakref__" (.weakLinks name) else own

/-- A class without its fields. The values that stand for fields are told their names in the way of
their own. -/
def draft (name qualname : String) (shape : Shape) (bases : List Nat)
    (members : Assoc String Member) (naming : World → Except Fault Unit) :
    Action World RecordClass := do
  let base ← (← Action.get).bestBase bases
  let given ← slotsGiven shape members
  let w ← Action.get
  let slots? ← match given with
    | none => pure none
    | some l => some <$> w.slotsOver name base members l
  Text.checkWhole name
  if name.toList.contains '\x00' then Action.faulty .nullInName
  let qualname ← w.qualnameGiven members qualname
  w.checkCell members
  let ancestors ← w.ancestorsOver w.classes.length bases
  naming w
  w.checkFollowing ancestors.tail
  let slots := slotNames name (slots?.getD [])
  let declares (part : String) : Bool := slots?.elim true (·.contains part)
  let addsLinks := !w.hasLinks base && (declares "__weakref__" || bases.any w.hasLinks)
  let addsVariables := !w.hasVariables base && (declares "__dict__" || bases.any w.hasVariables)
  let members := draftMembers name slots? addsLinks addsVariables members
  return {
    name, qualname, shape, slots?, members, bases, ancestors
    label := labelOf members name qualname
    layout := if slots.isEmpty then (w.cls base).layout else w.classes.length
    room := (w.cls base).room.extended slots.length addsLinks addsVariables
    schema? := none }

/-! ### Open functions -/

/-- The names of some members whose values say that they are left open. -/
def openMembers (w : World) : List (String × Member) → Except Fault (List String)
  | [] => .ok []
  | (name, .constant (.object i c)) :: members => do
    let said ← (Value.object i c).attrOr w.view "__isabstractmethod__" .null
    let isOpen ← said.truth w.view
    let others ← openMembers w members
    return if isOpen then name :: others else others
  | _ :: members => openMembers w members

/-- The names that bases leave open and that the class under a number does not fill. -/
def openInherited (w : World) (c : Nat) (bases : List Nat) : Except Fault (List String) := do
  let told ← bases.mapM fun b => match Assoc.get? (w.cls b).members "__abstractmethods__" with
    | some m => do (← m.ofClass w.view (w.ref b) [] "__abstractmethods__").items w.view
    | none => return []
  let names ← told.flatten.mapM fun v => match v with
    | .text name => Except.ok name
    | v => .error (.attributeNotText v.typeName)
  let found ← names.mapM fun name => do
    match ← w.classAttribute? c name with
    | some v => do
      let said ← v.attrOr w.view "__isabstractmethod__" .null
      return (name, ← said.truth w.view)
    | none => return (name, false)
  return (found.filter (·.2)).map (·.1)

/-- What a class tells of the functions that it leaves open. -/
def openSetting (names : List String) : String × Member :=
  ("__abstractmethods__", .constant (.fixedSet (names.eraseDups.map .text)))

end RecordSql.World
