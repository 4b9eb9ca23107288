import RecordSql.Builder.Altered
import RecordSql.Value.Calculation

/-! Steps of altered builders: their methods, making them anew, and putting and removing parts by
name. What was done before an error stays so. -/

namespace RecordSql.Altered

abbrev Step (α : Type) : Type := Action (Altered × Feeds) α

def drawing {α : Type} (x : Action Feeds α) : Step α :=
  Action.within (·.2) (fun feeds s => (s.1, feeds)) x

def current : Step Altered := return (← Action.get).1

def change (f : Altered → Altered) : Step Unit := Action.modify fun s => (f s.1, s.2)

def hold (name : String) (p : Part) : Step Unit := change fun b => b.put name p

def holdValue (name : String) (v : Value) : Step Unit := hold name (.value v)

/-! ### Methods -/

/-- Joins a relation. The requests are looked at before the join type. -/
def join (objects : Objects) (relation joinType : Value) (on : Option OnClause) : Step Unit := do
  match (← (← current).part "_joins").asRequests with
  | .own l =>
    let request : JoinRequest := ⟨relation, ← JoinType.given objects joinType, on⟩
    hold "_joins" (.requests (l ++ [.own request]))
  | .value v =>
    let found ← v.attr objects "append"
    let _ ← JoinType.given objects joinType
    Action.faulty (found.uncallable objects.rule)

/-- Joins relations, one after the other; of a feed no more are drawn than that. -/
def joinEach (objects : Objects) (feed? : Option Nat) : List Value → Step Unit
  | [] => pure ()
  | relation :: rest => do
    if let some i := feed? then drawing (Action.modify fun feeds => feeds.set i rest)
    (← current).checkFunction objects "relation"
    join objects relation .null none
    joinEach objects feed? rest

def joinMany (objects : Objects) (relations : Value) : Step Unit := do
  match relations with
  | .feed i => do
    let left ← drawing do return (← Action.get)[i]?.getD []
    joinEach objects (some i) left
  | v => joinEach objects none (← v.items objects)

/-- Entries under their keys, with values in the place of directions. -/
def keyed (objects : Objects) (es : List (Value × Value)) :
    Except Fault (Assoc Key (Value × OrValue SortDirection)) :=
  es.mapM fun e => do return (← e.1.key objects, e.1, .value e.2)

/-- Puts a direction into a list that stands in the place of the ordering. -/
def putItem (l : List Value) (index : Value) (d : SortDirection) : Except Fault (List Value) :=
  match index.integer? with
  | none => .error (.notIndex "list" index.typeName)
  | some n =>
    let place := if n < 0 then n + l.length else n
    if !Value.isPlace n then .error .indexRoom
    else if place < 0 || l.length ≤ place then .error .placeRange
    else .ok (l.set place.toNat (.text d.label))

/-- Orders by a property. -/
def orderBy (objects : Objects) (key direction : Value) : Step Unit := do
  let d ← SortDirection.given objects direction
  let putInto (es : Assoc Key (Value × OrValue SortDirection)) : Step Unit := do
    let k ← key.key objects
    let first := ((Assoc.get? es k).map (·.1)).getD key
    hold "_order_by" (.ordering (Assoc.put es k (first, .own d)))
  match (← (← current).part "_order_by").asOrdering with
  | .own es => putInto es
  | .value (.dict es _) => putInto (← keyed objects es)
  | .value (.list l _) => holdValue "_order_by" (.list (← putItem l key d))
  | .value (.object i c) => do
    Value.apply objects i "__setitem__"
    Action.faulty (.noItemAssignment c.name)
  | .value v => Action.faulty (.noItemAssignment v.typeName)

def setCount (objects : Objects) (clause : CountClause) (name : String) (v : Value) :
    Step Unit := do
  let _ ← Select.count objects clause v
  holdValue name v

def setAlias (objects : Objects) (v : Value) : Step Unit := do
  if ← v.truth objects then holdValue "_alias" v else Action.fail (.empty .tableAlias)

/-- Calls a method, other than the one that finishes the statement, with as many arguments as it
takes. -/
def callMethod (objects : Objects) (method : String) (args : List Value) (on : Option OnClause) :
    Step Unit :=
  match method, args with
  | "where", [v] => holdValue "_conditions" v
  | "relation", name :: rest => join objects name (rest.headD .null) on
  | "relations", [v] => joinMany objects v
  | "order_by", key :: rest => orderBy objects key (rest.headD (.text "ASC"))
  | "limit", [v] => setCount objects .limit "_limit" v
  | "offset", [v] => setCount objects .offset "_offset" v
  | "alias", [v] => setAlias objects v
  | "values", [v] => holdValue "_rows" (.list [v])
  | "values_many", [v] => do holdValue "_rows" (.list (← drawing (v.elements objects)))
  | "set", [v] => holdValue "_values" v
  | _, _ => pure ()

/-! ### Making anew -/

/-- Something as it is made where null is given, or the given value. -/
def orUsual {α : Type} (usual : α) : Value → OrValue α
  | .null => .own usual
  | v => .value v

def tablesPart : OrValue Origin → Part
  | .own origin => .tables origin
  | .value v => .value v

def configPart : OrValue Config → Part
  | .own c => .config c
  | .value v => .value v

/-- Makes the parts anew from an entity and what else is given. A part that cannot be made leaves
those behind it as they were. -/
def remake (objects : Objects) (args : List Value) : Step Unit := do
  let kind := (← current).kind
  let arg (i : Nat) : Value := args.getD i .null
  let tables := orUsual Origin.usual (arg 1)
  let config := orUsual Config.usual (arg 2)
  let operators := orUsual Origin.usual (arg 3)
  let makeMode : Step Unit := do
    let mode ← match args[4]? with
      | none => pure kind.aliasMode
      | some v => AliasMode.given objects v
    hold "_alias_mode" (.mode mode)
  holdValue "_entity" (arg 0)
  hold "_registry" (tablesPart tables)
  hold "_config" (configPart config)
  if kind ≠ .insert then hold "_where_compiler" (.compiler operators config)
  match kind with
  | .select =>
    hold "_join_expander" (.expander tables config)
    holdValue "_conditions" .null
    hold "_joins" (.requests [])
    hold "_order_by" (.ordering [])
    holdValue "_limit" .null
    holdValue "_offset" .null
    holdValue "_alias" .null
  | .insert => holdValue "_rows" .null
  | .update =>
    makeMode
    holdValue "_values" .null
    holdValue "_conditions" .null
  | .delete =>
    makeMode
    holdValue "_conditions" .null

/-! ### By name -/

/-- Puts a value under a name. What builders of all kinds have of their class is kept. -/
def setAttribute (name : String) (v : Value) : Step Unit := do
  let type := (← current).kind.typeName
  match name, v with
  | "__class__", .cls _ => Action.faulty .classFixed
  | "__class__", v => Action.faulty (.notClass v.typeName)
  | "__dict__", .dict es _ => change fun b => { b with parts := es.map fun e => (e.1, .value e.2) }
  | "__dict__", v => Action.faulty (.notVariables v.typeName)
  | "__weakref__", _ => Action.faulty (.notWritable name "BaseQueryBuilder")
  | "entity", _ => Action.faulty (.readOnly name type)
  | name, v => holdValue name v

/-- Removes what is held under a name. -/
def deleteAttribute (name : String) : Step Unit := do
  let b ← current
  match name with
  | "__class__" => Action.faulty .classKept
  | "__dict__" => change fun b => { b with parts := [] }
  | "__weakref__" => Action.faulty (.notWritable name "BaseQueryBuilder")
  | "entity" => Action.faulty (.undeletable name b.kind.typeName)
  | name =>
    if (b.find? name).isSome then change (·.erase name)
    else Action.faulty (.noPlace b.kind.typeName name)

end RecordSql.Altered
