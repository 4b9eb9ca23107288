import RecordSql.Delete
import RecordSql.Insert
import RecordSql.Select
import RecordSql.Update

/-! Factories: one configuration shared by all the statements made, and whole statements in one
call. -/

namespace RecordSql

/-- Makes statements over one context with one configuration. -/
structure Factory where
  context : Context
  config : Config

namespace Factory

def createSelect (f : Factory) (entity : Value) : Select := .of entity f.config

def createInsert (_ : Factory) (entity : Value) : Insert := .of entity

def createUpdate (f : Factory) (entity : Value) : Update := .of entity f.config .tableName

def createDelete (f : Factory) (entity : Value) : Delete := .of entity f.config .none

/-- The arguments of a selection in one call; null stands for what is not given. -/
structure Selection where
  entity : Value
  conditions : Value := .null
  relations : Value := .null
  ordering : Value := .null
  limit : Value := .null
  offset : Value := .null

def orderingEntries (objects : Objects) (ordering : Value) :
    Except Fault (List (Value × Value)) :=
  do if ← ordering.truth objects then ordering.mapping objects else return []

def select (f : Factory) (a : Selection) : Action Feeds Statement := do
  let objects := f.context.objects
  let s := f.createSelect a.entity
  let s := if ← a.conditions.truth objects then s.where_ a.conditions else s
  let s ← if ← a.relations.truth objects then s.joinMany objects a.relations else pure s
  let entries ← orderingEntries objects a.ordering
  let s ← (entries.foldlM (fun s e => s.orderBy objects e.1 e.2) s :
    Except Error Select)
  let s ← if a.limit.isNull then pure s else s.setLimit objects a.limit
  let s ← if a.offset.isNull then pure s else s.setOffset objects a.offset
  s.build f.context

/-- The entities of a batch; a list or a tuple is one. -/
def batch? : Value → Option (List Value)
  | .list l _ | .tuple l _ => some l
  | _ => none

/-- An insertion in one call, into the table of the given entity or else of the first source's
class. -/
def insert (f : Factory) (sources entity : Value) : Action Feeds Statement := do
  let objects := f.context.objects
  sources.checkKind objects
  let sample ← match batch? sources with
    | some [] => Action.fail .emptyBatch
    | some (first :: _) => pure first
    | none => pure sources
  let i := f.createInsert (if ← entity.truth objects then entity else .cls sample.classOf)
  let i ← if (batch? sources).isSome then i.valuesMany objects sources
    else pure (i.values sources)
  i.build f.context

def update (f : Factory) (entity source conditions : Value) : Action Feeds Statement := do
  let u := (f.createUpdate entity).set source
  let u := if ← conditions.truth f.context.objects then u.where_ conditions else u
  u.build f.context

/-- A deletion in one call. -/
def delete (f : Factory) (entity conditions : Value) : Action Feeds Statement := do
  let d := f.createDelete entity
  let d := if ← conditions.truth f.context.objects then d.where_ conditions else d
  d.build f.context

end Factory

end RecordSql
