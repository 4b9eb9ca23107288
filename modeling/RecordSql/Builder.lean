import RecordSql.Delete
import RecordSql.Insert
import RecordSql.Parameters
import RecordSql.Select
import RecordSql.Update

/-! Builders: statements of all kinds under construction, and the methods that advance and finish
them. -/

namespace RecordSql

/-- The kinds of statements. -/
inductive BuilderKind where
  | select
  | insert
  | update
  | delete
  deriving DecidableEq

/-- A statement of any kind under construction. -/
inductive Builder where
  | select (b : Select)
  | insert (b : Insert)
  | update (b : Update)
  | delete (b : Delete)

namespace BuilderKind

def typeName : BuilderKind → String
  | select => "SelectQueryBuilder"
  | insert => "InsertQueryBuilder"
  | update => "UpdateQueryBuilder"
  | delete => "DeleteQueryBuilder"

def methods : BuilderKind → Assoc String Parameters
  | select => [("where", .all ["conditions"]),
      ("relation", ⟨["relation_name", "join_type", "on"], 1⟩),
      ("relations", .all ["relation_names"]), ("order_by", ⟨["property_key", "direction"], 1⟩),
      ("limit", .all ["count"]), ("offset", .all ["count"]), ("alias", .all ["name"]),
      ("build", .all [])]
  | insert => [("values", .all ["entity"]), ("values_many", .all ["entities"]),
      ("build", .all [])]
  | update => [("set", .all ["values"]), ("where", .all ["conditions"]), ("build", .all [])]
  | delete => [("where", .all ["conditions"]), ("build", .all [])]

def makers : BuilderKind → Parameters
  | select => ⟨["entity", "registry", "config", "operators"], 1⟩
  | insert => ⟨["entity", "registry", "config"], 1⟩
  | update | delete => ⟨["entity", "registry", "config", "operators", "alias_mode"], 1⟩

/-- How conditions name columns where nothing else is asked for. -/
def aliasMode : BuilderKind → AliasMode
  | update => .tableName
  | _ => .none

end BuilderKind

namespace Builder

def kind : Builder → BuilderKind
  | select _ => .select
  | insert _ => .insert
  | update _ => .update
  | delete _ => .delete

def entity : Builder → Value
  | select b => b.entity
  | insert b => b.entity
  | update b => b.entity
  | delete b => b.entity

def build (ctx : Context) : Builder → Action Feeds Statement
  | select b => b.build ctx
  | insert b => b.build ctx
  | update b => b.build ctx
  | delete b => b.build ctx

/-- The text of the statement under construction. -/
def describe (objects : Objects) : Builder → Except Fault String
  | select b => b.describe objects
  | insert b => b.describe objects
  | update b => b.describe objects
  | delete b => b.describe objects

/-! ### Methods -/

/-- What a method ends in: a builder that is further on, or the statement. -/
inductive Progress where
  | builder (b : Builder)
  | statement (s : Statement)

/-- Calls a method with as many arguments as it takes. The further predicate of a join is given
apart from the other arguments. -/
def callMethod (ctx : Context) (b : Builder) (method : String) (args : List Value)
    (on : Option OnClause) : Action Feeds Progress := do
  match b, method, args with
  | select s, "where", [v] => return .builder (.select (s.where_ v))
  | select s, "relation", name :: rest =>
    return .builder (.select (← s.join ctx.objects name (rest.headD .null) on))
  | select s, "relations", [v] => return .builder (.select (← s.joinMany ctx.objects v))
  | select s, "order_by", key :: rest =>
    return .builder (.select (← s.orderBy ctx.objects key (rest.headD (.text "ASC"))))
  | select s, "limit", [v] => return .builder (.select (← s.setLimit ctx.objects v))
  | select s, "offset", [v] => return .builder (.select (← s.setOffset ctx.objects v))
  | select s, "alias", [v] => return .builder (.select (← s.setAlias ctx.objects v))
  | insert i, "values", [v] => return .builder (.insert (i.values v))
  | insert i, "values_many", [v] => return .builder (.insert (← i.valuesMany ctx.objects v))
  | update u, "set", [v] => return .builder (.update (u.set v))
  | update u, "where", [v] => return .builder (.update (u.where_ v))
  | delete d, "where", [v] => return .builder (.delete (d.where_ v))
  | b, _, _ => return .statement (← b.build ctx)

end Builder

end RecordSql
