import RecordSql.Builder

/-! Parts of builders: what a builder holds under the names of its settings, each as the builder has
made it or a value that was put in its place. -/

namespace RecordSql

/-- Something as a builder has made it, or a value in its place. -/
inductive OrValue (α : Type) where
  | own (a : α)
  | value (v : Value)

/-- Whether a builder uses the tables and the operators that it was made with, or those that are
used where none are given. -/
inductive Origin where
  | given
  | usual
  deriving DecidableEq

abbrev Contexts := Origin → Context

def Contexts.objects (cs : Contexts) : Objects := (cs .given).objects

/-- What a builder holds under a name. -/
inductive Part where
  | value (v : Value)
  | tables (origin : Origin)
  | config (c : Config)
  | mode (m : AliasMode)
  | requests (l : List (OrValue JoinRequest))
  | ordering (es : Assoc Key (Value × OrValue SortDirection))
  /-- What conditions are compiled by. -/
  | compiler (operators : OrValue Origin) (config : OrValue Config)
  /-- What relations are expanded by. -/
  | expander (tables : OrValue Origin) (config : OrValue Config)

/-- Something that is known by its type alone. -/
def Value.opaquely (type : String) : Value := .member type ("<" ++ type ++ " object at 0x>")

namespace Part

/-! ### As values -/

def requestValue : OrValue JoinRequest → Value
  | .own _ => .opaquely "JoinRequest"
  | .value v => v

def directionValue : OrValue SortDirection → Value
  | .own d => .text d.label
  | .value v => v

/-- A part as a value. Keywords are texts. -/
def toValue : Part → Value
  | value v => v
  | tables _ => .opaquely "MetadataRegistry"
  | config _ => .opaquely "CompilerConfig"
  | mode m => .text m.label
  | requests l => .list (l.map requestValue)
  | ordering es => .dict (es.map fun e => (e.2.1, directionValue e.2.2))
  | compiler .. => .opaquely "WhereClauseCompiler"
  | expander .. => .opaquely "JoinExpander"

def uncallable (objects : Objects) : Part → Fault
  | mode _ => .notCallable "AliasMode"
  | p => p.toValue.uncallable objects.rule

/-! ### By their kind -/

def asTables : Part → OrValue Origin
  | tables origin => .own origin
  | p => .value p.toValue

def asConfig : Part → OrValue Config
  | config c => .own c
  | p => .value p.toValue

def asRequests : Part → OrValue (List (OrValue JoinRequest))
  | requests l => .own l
  | value (.list l _) => .own (l.map .value)
  | p => .value p.toValue

def asOrdering : Part → OrValue (Assoc Key (Value × OrValue SortDirection))
  | ordering es => .own es
  | p => .value p.toValue

def asCompiler : Part → OrValue (OrValue Origin × OrValue Config)
  | compiler o c => .own (o, c)
  | p => .value p.toValue

def asExpander : Part → OrValue (OrValue Origin × OrValue Config)
  | expander o c => .own (o, c)
  | p => .value p.toValue

def asMode (objects : Objects) : Part → Except Error AliasMode
  | mode m => .ok m
  | p => AliasMode.given objects p.toValue

end Part

namespace OrValue

def setting {α : Type} (objects : Objects) (c : OrValue Config) (own : Config → α)
    (name : String) (read : Value → Except Error α) : Except Error α :=
  match c with
  | .own c => .ok (own c)
  | .value v => do read (← (v.attr objects name).mapError .fault)

def separator (objects : Objects) (c : OrValue Config) : Except Error String :=
  c.setting objects (·.separator) "column_alias_separator" fun v =>
    (v.written objects).mapError .fault

def joinType (objects : Objects) (c : OrValue Config) : Except Error JoinType :=
  c.setting objects (·.joinType) "default_join_type" fun v =>
    keywordOf objects JoinType.ofValue? v (.fault (.notMember v "JoinType"))

def strict (objects : Objects) : OrValue Config → Except Fault Bool
  | .own c => .ok c.strict
  | .value v => do (← v.attr objects "strict_conditions").truth objects

def tables (cs : Contexts) : OrValue Origin → Except Error (Value → Except Error Table)
  | .own origin => .ok ((cs origin).registry.table cs.objects)
  | .value v => do
    let found ← (v.attr cs.objects "get_table").mapError .fault
    return fun _ => .error (.fault (found.uncallable cs.objects.rule))

/-- The handlers of tokens. What a value has for one cannot be called. -/
def handlers (cs : Contexts) : OrValue Origin → Value → Except Error Handler
  | .own origin, token => (cs origin).operators.handler cs.objects token
  | .value (.dict es _), token => do
    let sought ← (token.key cs.objects).mapError .fault
    let found? := es.find? fun e => (e.1.key cs.objects).toOption = some sought
    throw (.fault ((found?.elim .null (·.2)).uncallable cs.objects.rule))
  | .value v, _ => (v.called cs.objects "get").mapError .fault

end OrValue

/-! ### Of builders -/

namespace Builder

def countValue (count : Option Nat) : Value := count.elim .null fun n => .int n

/-- The parts of a builder by their names, in the order in which they are made. -/
def parts : Builder → Assoc String Part
  | select s => [("_entity", .value s.entity), ("_registry", .tables .given),
      ("_config", .config s.config), ("_where_compiler", .compiler (.own .given) (.own s.config)),
      ("_join_expander", .expander (.own .given) (.own s.config)),
      ("_conditions", .value s.conditions), ("_joins", .requests (s.joins.map .own)),
      ("_order_by", .ordering (s.ordering.map fun e => (e.1, e.2.1, .own e.2.2))),
      ("_limit", .value (countValue s.limit)), ("_offset", .value (countValue s.offset)),
      ("_alias", .value s.tableAlias)]
  | insert i => [("_entity", .value i.entity), ("_registry", .tables .given),
      ("_config", .value (.opaquely "CompilerConfig")),
      ("_rows", .value (i.rows.elim .null .list))]
  | update u => [("_entity", .value u.entity), ("_registry", .tables .given),
      ("_config", .config u.config), ("_where_compiler", .compiler (.own .given) (.own u.config)),
      ("_alias_mode", .mode u.mode), ("_values", .value u.source),
      ("_conditions", .value u.conditions)]
  | delete d => [("_entity", .value d.entity), ("_registry", .tables .given),
      ("_config", .config d.config), ("_where_compiler", .compiler (.own .given) (.own d.config)),
      ("_alias_mode", .mode d.mode), ("_conditions", .value d.conditions)]

end Builder

end RecordSql
