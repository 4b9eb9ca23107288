import RecordSql.Error

/-! Metadata: which table an entity is stored in, with which columns, and how tables are related. -/

namespace RecordSql

/-- A conversion between the values of a property and what is stored for them. -/
structure Transformer where
  name : String
  store : Objects → Value → Except Fault Value
  load : Objects → Value → Except Fault Value

/-- A property and the column it is stored in. -/
structure Column where
  propertyKey : String
  name : String
  transformer : Option Transformer
  excludeFromInsert : Value
  excludeFromUpdate : Value

/-- The values that names are bound to. -/
abbrev Scope := String → Option Value

/-- What a relation leads to: an entity, or a function that finds it when a statement is built. -/
inductive Target where
  | direct (entity : Value)
  | deferred (resolver : Scope → Except Fault Value)

inductive RelationKind where
  | oneToMany
  | manyToOne
  deriving DecidableEq

/-- A link from one table to another, over which they can be joined. -/
structure Relation where
  kind : RelationKind
  propertyKey : String
  selfReference : String
  targetTable : String
  targetColumn : String
  target : Target

/-- The final description of an entity's table. -/
structure Table where
  entity : Value
  name : String
  columns : List Column
  relations : List Relation

namespace RelationKind

def label : RelationKind → String
  | oneToMany => "OneToMany"
  | manyToOne => "ManyToOne"

def ofValue? : Value → Option RelationKind
  | .text "OneToMany" => some oneToMany
  | .text "ManyToOne" => some manyToOne
  | _ => none

theorem ofValue?_label (k : RelationKind) : ofValue? (.text k.label) = some k := by cases k <;> rfl

end RelationKind

namespace Target

def resolve (scope : Scope) : Target → Except Fault Value
  | direct entity => .ok entity
  | deferred resolver => resolver scope

end Target

namespace Column

/-- What is stored for a value; null is stored as it is. -/
def toStored (objects : Objects) (c : Column) (v : Value) : Except Fault Value :=
  match v, c.transformer with
  | .null, _ => .ok .null
  | v, none => .ok v
  | v, some t => t.store objects v

def stored (objects : Objects) (c : Option Column) (v : Value) : Except Error Value :=
  match c with
  | none => .ok v
  | some c => (c.toStored objects v).mapError fun cause => .transformation c.name .store cause

def loaded (objects : Objects) (c : Column) (v : Value) : Except Error Value :=
  match c.transformer with
  | none => .ok v
  | some t => (t.load objects v).mapError fun cause => .transformation c.name .load cause

end Column

namespace Table

def column? (objects : Objects) (t : Table) (key : Value) : Except Fault (Option Column) :=
  key.sought objects t.columns (·.propertyKey)

def relation? (objects : Objects) (t : Table) (key : Value) : Except Fault (Option Relation) :=
  key.sought objects t.relations (·.propertyKey)

def propertyKeys (t : Table) : List String := t.columns.map (·.propertyKey)

end Table

end RecordSql
