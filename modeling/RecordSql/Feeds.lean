import RecordSql.Action
import RecordSql.Value.Order

/-! Going through values: the items of a sequence, the keys of a mapping, what is left of a feed. -/

namespace RecordSql

/-- What is left of each feed, by its number. -/
abbrev Feeds := List (List Value)

namespace Value

/-- The items of a value; a feed is left empty. -/
def elements (objects : Objects) (v : Value) : Action Feeds (List Value) :=
  match v with
  | feed i => do
    let feeds ← Action.get
    Action.modify fun f => f.set i []
    return feeds[i]?.getD []
  | v => Action.ofFault (v.items objects)

/-- The items of a value; a feed still has them. -/
def upcoming (objects : Objects) (v : Value) : Action Feeds (List Value) :=
  match v with
  | feed i => do return (← Action.get)[i]?.getD []
  | v => Action.ofFault (v.items objects)

/-- Leaves a feed with what is given. -/
def leave (v : Value) (rest : List Value) : Action Feeds Unit :=
  match v with
  | feed i => Action.modify fun f => f.set i rest
  | _ => pure ()

/-- Items, each with those that come behind it. -/
def withRests : List Value → List (Value × List Value)
  | [] => []
  | v :: l => (v, l) :: withRests l

/-- Draws one item after the other from a feed and does something with each. -/
def drawEach {α : Type} (i : Nat) (f : Value → Action Feeds α) :
    List Value → Action Feeds (List α)
  | [] => pure []
  | v :: l => do
    Action.modify fun feeds => feeds.set i l
    let a ← f v
    return a :: (← drawEach i f l)

/-- Does something with each item of a value, one after the other. -/
def each {α : Type} (objects : Objects) (v : Value) (f : Value → Action Feeds α) :
    Action Feeds (List α) :=
  match v with
  | feed i => do drawEach i f ((← Action.get)[i]?.getD [])
  | v => do (← v.items objects).mapM f

/-- Different values as a set goes through them: numbers come first. -/
def gathered (l : List Value) : List Value :=
  l.filter isNumber ++ l.filter fun v => !v.isNumber

/-- The different items of a value, all of which must be keys. A feed is read up to one that is not.
-/
def members (objects : Objects) (v : Value) : Action Feeds (List Value) :=
  match v with
  | feed i => do
    let left := (← Action.get)[i]?.getD []
    let rest := left.dropWhile fun x => (x.key objects).isOk
    Action.modify fun f => f.set i rest.tail
    return gathered (← distinct objects left)
  | v => do return gathered (← distinct objects (← v.elements objects))

/-- Whether a value holds a text. A feed is read up to it. -/
def holds (objects : Objects) (v : Value) (key : String) : Action Feeds Bool :=
  match v with
  | feed i => do
    let left := (← Action.get)[i]?.getD []
    let found := left.dropWhile fun x => x.text? ≠ some key && (x.checkEquality objects).isOk
    Action.modify fun f => f.set i found.tail
    among objects key (found.take 1)
  | v => Action.ofFault (v.contains objects key)

/-- Whether the class of an object says something of its items. -/
def tellsItems (objects : Objects) (v : Value) : Bool :=
  match v with
  | object i _ =>
    match objects.rule i "__iter__", objects.items? i, objects.rule i "__getitem__" with
    | .usual, none, .usual => false
    | _, _, _ => true
  | _ => false

/-- The two items of a value that has no others; of a feed no more are drawn than are looked at. -/
def twoItems (objects : Objects) (v : Value) : Action Feeds (Value × Value) :=
  match v with
  | feed i => do
    let left := (← Action.get).getD i []
    Action.modify fun f => f.set i (left.drop 3)
    pair (left.take 3)
  | v => match v.items objects with
    | .ok l => pair l
    | .error f => Action.faulty (if v.tellsItems objects then f else .notUnpackable v.typeName)
where
  /-- A list of two as a pair. -/
  pair : List Value → Action Feeds (Value × Value)
    | [a, b] => pure (a, b)
    | l => Action.faulty (if l.length < 2 then .tooFewItems 2 l.length else .tooManyItems 2)

end Value

end RecordSql
