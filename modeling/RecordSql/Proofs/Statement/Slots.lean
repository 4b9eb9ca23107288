import RecordSql.Proofs.Statement.Plain
import RecordSql.Proofs.Statement.Template

/-! The slots of statements: every statement that the builders make is told as a template, with the
values that its slots are filled from before any of them is converted. -/

namespace RecordSql

/-- What the handler of a token tells: the slots of a condition, given a column, its name in the
statement and an operand. -/
abbrev Pattern := Objects → Option Column → String → Value → Action Feeds Template

namespace Pattern

def comparison (symbol : String) : Pattern := fun _ column reference operand =>
  pure [.text (reference ++ " " ++ symbol ++ " "), .slot ⟨column, operand⟩]

/-- A pattern to be matched belongs to no column. -/
def like : Pattern := fun _ _ reference operand =>
  pure [.text (reference ++ " LIKE "), .slot ⟨none, operand⟩]

def null : Pattern := fun objects _ reference operand => do
  return [.text (reference ++ (if ← operand.truth objects then " IS NULL" else " IS NOT NULL"))]

/-- One slot for each item of the operand. -/
def member : Pattern := fun objects column reference operand => do
  let items ← operand.elements objects
  if items.isEmpty then return [.text "1 = 0"]
  else return .text (reference ++ " IN ") :: Template.group (items.map (⟨column, ·⟩))

/-- The patterns of the operators of every new world. -/
def builtin : Assoc String Pattern :=
  [("$eq", comparison "="), ("$gt", comparison ">"), ("$lt", comparison "<"),
    ("$gte", comparison ">="), ("$lte", comparison "<="), ("$not", comparison "!="),
    ("$like", like), ("$null", null), ("$in", member)]

end Pattern

namespace Where

/-- The template of one entry. -/
def entryTemplate (objects : Objects) (r : Reading) (table : Table) (lead : String)
    (entry : Value × Value) : Action Feeds Template := do
  let column ← columnFor objects r table entry.1
  let condition ← Condition.ofValue objects r.strict entry.1 entry.2
  let reference := lead ++ (← columnName objects column entry.1)
  match condition with
  | .literal v => return [.text (reference ++ " = "), .slot ⟨column, v⟩]
  | .operator token operand =>
    match token.text?.bind (Assoc.get? Pattern.builtin ·) with
    | some pattern => pattern objects column reference operand
    | none => Action.fail (.unsupported token)

/-- The template of a condition set, entry by entry. -/
def template (ctx : Context) (config : Config) (table : Table) (conditions : Value)
    (mode : AliasMode) (tableAlias : Value) : Action Feeds Template := do
  if !(← conditions.truth ctx.objects) then return []
  else
    let lead ← qualifier ctx.objects mode table tableAlias
    let entries ← conditions.mapping ctx.objects
    let entry := entryTemplate ctx.objects (reading ctx config) table lead
    return Template.separated " AND " (← entries.mapM entry)

end Where

/-- The slot of a column of a row. -/
def Source.slot (objects : Objects) (source : Value) (c : Column) : Except Fault Slot := do
  return ⟨some c, ← read objects source c.propertyKey⟩

/-- Row by row, in the order of the columns. -/
def Insert.template (i : Insert) (ctx : Context) : Action Feeds Template := do
  let t ← ctx.registry.table ctx.objects i.entity
  let columns ← columns ctx.objects t
  let rows ← ((i.rows.getD []).mapM fun row => columns.mapM (Source.slot ctx.objects row) :
    Except Fault (List (List Slot)))
  let start := "INSERT INTO " ++ t.name ++ "(" ++ commaSeparated (columns.map (·.name)) ++
    ") VALUES "
  return .text start :: Template.separated ", " (rows.map Template.group)

namespace Update

/-- The assignment of a column, if it is supplied and not excluded. -/
def assignmentTemplate (objects : Objects) (source : Value) (supplied : List Value) (c : Column) :
    Except Fault (Option Template) := do
  if ← c.excludeFromUpdate.truth objects then return none
  else if supplied.any fun k => k.text? = some c.propertyKey then
    return some [.text (c.name ++ " = "), .slot (← Source.slot objects source c)]
  else return none

/-- The assignments in the order of the columns, and then the conditions. -/
def template (u : Update) (ctx : Context) : Action Feeds Template := do
  let t ← ctx.registry.table ctx.objects u.entity
  let supplied ← supplied ctx.objects u.source
  let assigned ← (t.columns.mapM (assignmentTemplate ctx.objects u.source supplied) :
    Except Fault (List (Option Template)))
  let conditions ← Where.template ctx u.config t u.conditions u.mode .null
  let set := Template.separated ", " (assigned.filterMap id)
  return Template.withWhere (.text ("UPDATE " ++ t.name ++ " SET ") :: set) conditions

end Update

def Delete.template (d : Delete) (ctx : Context) : Action Feeds Template := do
  let t ← ctx.registry.table ctx.objects d.entity
  let conditions ← Where.template ctx d.config t d.conditions d.mode .null
  return Template.withWhere [.text ("DELETE FROM " ++ t.name)] conditions

namespace Select

/-- All slots are those of the conditions. -/
def template (s : Select) (ctx : Context) : Action Feeds Template := do
  let t ← ctx.registry.table ctx.objects s.entity
  let given := if ← s.tableAlias.truth ctx.objects then s.tableAlias else .text t.name
  let tableAlias ← given.written ctx.objects
  let joins ← (s.joins.mapM (Join.expand ctx s.config t tableAlias) : Except Error (List Join))
  let conditions ← Where.template ctx s.config t s.conditions .tableName given
  let ordering ← orderClause ctx.objects t tableAlias
    ((Assoc.values s.ordering).map fun e => (e.1, .ok e.2.label))
  let start := [.text (head t tableAlias s.config.separator joins)]
  return Template.withWhere start conditions ++ [.text ordering,
    .text (countClause .limit (s.limit.map toString)),
    .text (countClause .offset (s.offset.map toString))]

end Select

/-- The template of the statement. -/
def Builder.template (ctx : Context) : Builder → Action Feeds Template
  | .select b => b.template ctx
  | .insert b => b.template ctx
  | .update b => b.template ctx
  | .delete b => b.template ctx

/-! ### Texts -/

open RecordSql.Action

/-- A pattern whose texts have no placeholders, given the name of a column without any. -/
def Pattern.Plain (pattern : Pattern) : Prop :=
  ∀ objects column reference operand, Text.Plain reference →
    Yields Template.Plain (pattern objects column reference operand)

namespace Pattern

theorem plain_comparison {symbol : String} (hs : Text.Plain symbol) :
    (comparison symbol).Plain := by
  intro objects column reference operand hr
  refine .pure ((Template.plain_nil.slot _).text ?_)
  simp +decide [hr, hs]

theorem plain_like : like.Plain := by
  intro objects column reference operand hr
  refine .pure ((Template.plain_nil.slot _).text ?_)
  simp +decide [hr]

theorem plain_null : null.Plain := by
  intro objects column reference operand hr
  refine .bind (.any _) fun isNull _ => .pure (Template.plain_nil.text ?_)
  cases isNull <;> simp +decide [hr]

theorem plain_member : member.Plain := by
  intro objects column reference operand hr
  refine .bind (.any _) fun items _ => .ite (fun _ => ?_) fun _ => ?_
  · exact .pure (Template.plain_nil.text (by decide))
  · exact .pure ((Template.plain_group _).text (Text.plain_append.mpr ⟨hr, by decide⟩))

theorem plain_builtin : ∀ e ∈ builtin, e.2.Plain := by
  simp +decide only [builtin, List.forall_mem_cons, plain_comparison, plain_like, plain_null,
    plain_member]
  simp

end Pattern

namespace Where

variable {ctx : Context} {config : Config} {t : Table}

theorem plain_entryTemplate (ht : t.Plain) {lead : String} (hlead : Text.Plain lead)
    {entry : Value × Value} (hk : t.PlainKey ctx.objects entry.1) :
    Yields Template.Plain (entryTemplate ctx.objects (reading ctx config) t lead entry) := by
  refine .bind (yields_columnFor _ _ _ _) fun column hc => .bind (.any _) fun condition _ => ?_
  refine .bind (.liftedFault _) fun name hn => ?_
  have href : Text.Plain (lead ++ name) :=
    Text.plain_append.mpr ⟨hlead, ht.columnName hk hc hn⟩
  cases condition with
  | literal v =>
    refine .pure ((Template.plain_nil.slot _).text ?_)
    exact Text.plain_append.mpr ⟨href, by decide⟩
  | operator token operand =>
    dsimp only
    split
    · obtain ⟨s, -, hs⟩ := Option.bind_eq_some_iff.mp ‹_›
      exact Pattern.plain_builtin _ (Assoc.mem_of_get? hs) _ _ _ _ href
    · exact .fail _

theorem plain_template (ht : t.Plain) {conditions : Value}
    (hc : Where.Plain ctx.objects t conditions) {mode : AliasMode} {tableAlias : Value}
    (ha : ∀ a, aliasOf ctx.objects t tableAlias = .ok a → Text.Plain a) :
    Yields Template.Plain (template ctx config t conditions mode tableAlias) := by
  refine .bind (.any _) fun isTrue _ => .ite (fun _ => .pure Template.plain_nil) fun _ => ?_
  refine .bind (.liftedFault _) fun lead hlead => .bind (.liftedFault _) fun entries he => ?_
  exact .bind (.mapM fun entry hmem => plain_entryTemplate ht (plain_qualifier ha hlead)
    (hc entries he entry hmem)) fun ts hts => .pure (.separated (by decide) hts)

end Where

variable {ctx : Context}

theorem Insert.plain_template (i : Insert)
    (hi : ∀ t, ctx.registry.table ctx.objects i.entity = .ok t → t.Plain) :
    Yields Template.Plain (i.template ctx) := by
  refine .bind (.lifted _) fun t ht => .bind (.liftedFault _) fun columns hc => ?_
  refine .bind (.any _) fun rows _ => .pure (.text (plain_start (hi t ht) (mem_columns hc)) ?_)
  refine .separated (by decide) fun u hu => ?_
  obtain ⟨slots, -, rfl⟩ := List.mem_map.mp hu
  exact Template.plain_group slots

theorem Update.plain_assignment {objects : Objects} {t : Table} (ht : t.Plain) {source : Value}
    {supplied : List Value} {c : Column} (hc : c ∈ t.columns) {u : Template}
    (h : assignmentTemplate objects source supplied c = .ok (some u)) : u.Plain := by
  obtain ⟨excluded, -, h⟩ := bind_eq_ok.mp h
  split at h
  · cases h
  · split at h
    · obtain ⟨s, -, h⟩ := bind_eq_ok.mp h
      cases h
      exact (Template.plain_nil.slot s).text (Text.plain_append.mpr ⟨ht.columns c hc, by decide⟩)
    · cases h

theorem Update.plain_template (u : Update)
    (hu : ∀ t, ctx.registry.table ctx.objects u.entity = .ok t →
      t.Plain ∧ Where.Plain ctx.objects t u.conditions) :
    Yields Template.Plain (u.template ctx) := by
  refine .bind (.lifted _) fun t ht => .bind (.any _) fun supplied _ => ?_
  refine .bind (.liftedFault _) fun assigned ha => ?_
  obtain ⟨ht, hc⟩ := hu t ht
  have halias := Where.plain_aliasOf_null ctx.objects ht
  refine .bind (Where.plain_template ht hc halias) fun conditions hp => .pure (.withWhere ?_ hp)
  refine .text (by simp +decide [ht.name]) (.separated (by decide) fun v hv => ?_)
  obtain ⟨_, hmem, rfl⟩ := List.mem_filterMap.mp hv
  obtain ⟨c, hc, h⟩ := exists_of_mem_mapM ha hmem
  exact plain_assignment ht hc h

theorem Delete.plain_template (d : Delete)
    (hd : ∀ t, ctx.registry.table ctx.objects d.entity = .ok t →
      t.Plain ∧ Where.Plain ctx.objects t d.conditions) :
    Yields Template.Plain (d.template ctx) := by
  refine .bind (.lifted _) fun t ht => ?_
  obtain ⟨ht, hc⟩ := hd t ht
  have halias := Where.plain_aliasOf_null ctx.objects ht
  refine .bind (Where.plain_template ht hc halias) fun conditions hp => .pure (.withWhere ?_ hp)
  exact Template.plain_nil.text (by simp +decide [ht.name])

theorem Select.plain_template (s : Select)
    (hs : ∀ t, ctx.registry.table ctx.objects s.entity = .ok t → t.Plain ∧ s.Plain ctx t) :
    Yields Template.Plain (s.template ctx) := by
  refine .bind (.lifted _) fun t ht => ?_
  obtain ⟨ht, hp⟩ := hs t ht
  refine .bind (.liftedFault _) fun isGiven hg => .bind (.liftedFault _) fun tableAlias ha => ?_
  have hgiven := hp.written ht hg
  have halias : Text.Plain tableAlias := hgiven tableAlias ha
  refine .bind (.lifted _) fun joins hj => ?_
  refine .bind (Where.plain_template ht hp.conditions (Where.plain_aliasOf ht hgiven))
    fun conditions hc => .bind (.liftedFault _) fun ordering ho => .pure ?_
  have hhead := plain_head ht hp halias hj
  have horder := plain_orderClause ht halias hp.ordering ho
  refine ((Template.plain_nil.text hhead).withWhere hc).append (.text horder ?_)
  exact (Template.plain_nil.text (plain_countClause _ _)).text (plain_countClause _ _)

/-- A template has no placeholders but those of its slots. -/
theorem Builder.plain_template {b : Builder} (hb : b.Plain ctx) :
    Yields Template.Plain (b.template ctx) := by
  cases b with
  | select s => exact s.plain_template hb
  | insert i => exact i.plain_template fun t ht => (hb t ht).1
  | update u => exact u.plain_template hb
  | delete d => exact d.plain_template hb

end RecordSql
