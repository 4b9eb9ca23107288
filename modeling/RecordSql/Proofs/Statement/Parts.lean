import RecordSql.Proofs.Statement.Outline

/-! The parts of statements: what a build that succeeds looks up, what it puts together from that,
and what it leaves and reports. -/

namespace RecordSql

open RecordSql.Action

/-- What a SELECT is put together from. -/
structure Select.Parts where
  table : Table
  given : Value
  tableAlias : String
  joins : List Join
  conditions : Statement
  ordering : String

namespace Select

variable (s : Select) (ctx : Context) (feeds : Feeds)

def Parts.query (p : Parts) : String :=
  Statement.withWhere (head p.table p.tableAlias s.config.separator p.joins) p.conditions ++
    p.ordering ++ countClause .limit (s.limit.map toString) ++
    countClause .offset (s.offset.map toString)

/-- The run of a build with some parts. -/
structure Built (p : Parts) : Prop where
  table : ctx.registry.table ctx.objects s.entity = .ok p.table
  truth : s.tableAlias.truth ctx.objects = .ok s.tableAlias.truthy
  given : p.given = if s.tableAlias.truthy then s.tableAlias else .text p.table.name
  tableAlias : p.given.written ctx.objects = .ok p.tableAlias
  joins : s.joins.mapM (Join.expand ctx s.config p.table p.tableAlias) = .ok p.joins
  conditions : (Where.compile ctx s.config p.table s.conditions .tableName p.given feeds).result =
    .ok p.conditions
  ordering : orderClause ctx.objects p.table p.tableAlias
    ((Assoc.values s.ordering).map fun e => (e.1, .ok e.2.label)) = .ok p.ordering
  run : s.build ctx feeds = ⟨.ok ⟨p.query s, p.conditions.params⟩,
    (Where.compile ctx s.config p.table s.conditions .tableName p.given feeds).state,
    (Where.compile ctx s.config p.table s.conditions .tableName p.given feeds).log ++
      [.selectBuilt p.table.name p.joins.length p.conditions.params.length]⟩

theorem exists_built {s : Select} {ctx : Context} {feeds : Feeds} {st : Statement}
    (h : (s.build ctx feeds).result = .ok st) : ∃ p, s.Built ctx feeds p := by
  obtain ⟨t, ht, h⟩ := bind_result_eq_ok.mp h
  obtain ⟨isGiven, hg, h⟩ := bind_result_eq_ok.mp h
  obtain ⟨tableAlias, ha, h⟩ := bind_result_eq_ok.mp h
  obtain ⟨joins, hj, h⟩ := bind_result_eq_ok.mp h
  obtain ⟨conditions, hc, h⟩ := bind_result_eq_ok.mp h
  obtain ⟨ordering, ho, h⟩ := bind_result_eq_ok.mp h
  have htruth : s.tableAlias.truth ctx.objects = .ok isGiven := mapError_eq_ok.mp hg
  have hgiven := Value.truth_eq_ok htruth
  refine ⟨⟨t, if isGiven then s.tableAlias else .text t.name, tableAlias, joins, conditions,
    ordering⟩, ht, by rw [htruth, hgiven], by rw [hgiven], mapError_eq_ok.mp ha, hj, hc,
    mapError_eq_ok.mp ho, ?_⟩
  rw [build, bind_run_of_ok ht, bind_run_of_ok hg, bind_run_of_ok ha, bind_run_of_ok hj,
    bind_run_of_ok hc, bind_run_of_ok ho]
  rfl

end Select

/-- What an INSERT is put together from. -/
structure Insert.Parts where
  rows : List Value
  table : Table
  columns : List Column
  params : List (List Value)

namespace Insert

structure Built (i : Insert) (ctx : Context) (feeds : Feeds) (p : Parts) : Prop where
  rows : i.rows = some p.rows
  table : ctx.registry.table ctx.objects i.entity = .ok p.table
  columns : Insert.columns ctx.objects p.table = .ok p.columns
  params : p.rows.mapM (Source.bound ctx.objects p.columns) = .ok p.params
  run : i.build ctx feeds =
    ⟨.ok ⟨text p.table p.columns p.rows.length, p.params.flatten⟩, feeds,
      [.insertBuilt p.table.name p.rows.length p.params.flatten.length]⟩

theorem exists_built {i : Insert} {ctx : Context} {feeds : Feeds} {st : Statement}
    (h : (i.build ctx feeds).result = .ok st) : ∃ p, i.Built ctx feeds p := by
  rcases i with ⟨entity, _ | _ | ⟨row, rows⟩⟩
  · cases h
  · cases h
  obtain ⟨t, ht, h⟩ := bind_result_eq_ok.mp h
  obtain ⟨columns, hc, h⟩ := bind_result_eq_ok.mp h
  cases columns with
  | nil => cases h
  | cons c columns =>
    obtain ⟨params, hp, h⟩ := bind_result_eq_ok.mp h
    refine ⟨⟨row :: rows, t, c :: columns, params⟩, rfl, ht, mapError_eq_ok.mp hc, hp, ?_⟩
    have hne : (c :: columns).isEmpty = false := rfl
    simp only [build]
    rw [bind_run_of_ok ht, bind_run_of_ok hc]
    simp only [hne, Bool.false_eq_true, if_false]
    rw [bind_run_of_ok hp]
    rfl

/-- The columns of a row are those that are not excluded, in their order. -/
theorem columns_eq_filter {objects : Objects} {t : Table} {l : List Column}
    (h : columns objects t = .ok l) :
    l = t.columns.filter fun c => !c.excludeFromInsert.truthy := by
  refine filterM_eq_ok (fun c b hb => ?_) h
  obtain ⟨excluded, he, hb⟩ := bind_eq_ok.mp hb
  rw [Value.truth_eq_ok he] at hb
  exact (Except.ok.inj hb).symm

/-- Each row binds a value for each of the columns. -/
theorem length_params {objects : Objects} {columns : List Column} {rows : List Value}
    {params : List (List Value)}
    (h : rows.mapM (Source.bound objects columns) = .ok params) :
    params.flatten.length = rows.length * columns.length := by
  induction mapM_eq_ok.mp h with
  | nil => exact (Nat.zero_mul _).symm
  | @cons row ps rows params hrow hrows ih =>
    have hcount : ps.length = columns.length := (mapM_eq_ok.mp hrow).length_eq.symm
    rw [List.flatten_cons, List.length_append, hcount, ih (mapM_eq_ok.mpr hrows), List.length_cons,
      Nat.succ_mul, Nat.add_comm]

end Insert

/-- What an UPDATE is put together from. -/
structure Update.Parts where
  table : Table
  keys : List Value
  assigned : List (Column × Value)
  conditions : Statement

namespace Update

variable (u : Update) (ctx : Context) (feeds : Feeds)

/-- What is left of the feeds once the keys of the source are known. -/
def feedsAfter : Feeds := (supplied ctx.objects u.source feeds).state

def Parts.query (p : Parts) : String :=
  Statement.withWhere ("UPDATE " ++ p.table.name ++ " SET " ++
    commaSeparated (p.assigned.map fun e => e.1.name ++ " = ?")) p.conditions

def Parts.params (p : Parts) : List Value := p.assigned.map (·.2) ++ p.conditions.params

structure Built (p : Parts) : Prop where
  table : ctx.registry.table ctx.objects u.entity = .ok p.table
  keys : (supplied ctx.objects u.source feeds).result = .ok p.keys
  assigned : assignments ctx.objects p.table u.source p.keys = .ok p.assigned
  nonempty : p.assigned.isEmpty = false
  conditions :
    (Where.compile ctx u.config p.table u.conditions u.mode .null (u.feedsAfter ctx feeds)).result =
      .ok p.conditions
  run : u.build ctx feeds = ⟨.ok ⟨p.query, p.params⟩,
    (Where.compile ctx u.config p.table u.conditions u.mode .null (u.feedsAfter ctx feeds)).state,
    (Where.compile ctx u.config p.table u.conditions u.mode .null (u.feedsAfter ctx feeds)).log ++
      [.updateBuilt p.table.name p.params.length]⟩

theorem exists_built {u : Update} {ctx : Context} {feeds : Feeds} {st : Statement}
    (h : (u.build ctx feeds).result = .ok st) : ∃ p, u.Built ctx feeds p := by
  obtain ⟨t, ht, h⟩ := bind_result_eq_ok.mp h
  obtain ⟨keys, hk, h⟩ := bind_result_eq_ok.mp h
  obtain ⟨assigned, ha, h⟩ := bind_result_eq_ok.mp h
  cases assigned with
  | nil => cases h
  | cons e assigned =>
    obtain ⟨conditions, hc, h⟩ := bind_result_eq_ok.mp h
    have hne : (e :: assigned).isEmpty = false := rfl
    refine ⟨⟨t, keys, e :: assigned, conditions⟩, ht, hk, ha, hne, hc, ?_⟩
    have hlog := Action.Silent.supplied ctx.objects u.source feeds
    rw [build, bind_run_of_ok ht, bind_run_of_ok hk, bind_run_of_ok ha]
    simp only [hne, Bool.false_eq_true, if_false]
    rw [bind_run_of_ok hc]
    simp only [liftM_run, hlog]
    rfl

end Update

/-- What a DELETE is put together from. -/
structure Delete.Parts where
  table : Table
  conditions : Statement

namespace Delete

structure Built (d : Delete) (ctx : Context) (feeds : Feeds) (p : Parts) : Prop where
  table : ctx.registry.table ctx.objects d.entity = .ok p.table
  conditions : (Where.compile ctx d.config p.table d.conditions d.mode .null feeds).result =
    .ok p.conditions
  run : d.build ctx feeds =
    ⟨.ok ⟨Statement.withWhere ("DELETE FROM " ++ p.table.name) p.conditions, p.conditions.params⟩,
      (Where.compile ctx d.config p.table d.conditions d.mode .null feeds).state,
      (Where.compile ctx d.config p.table d.conditions d.mode .null feeds).log ++
        [.deleteBuilt p.table.name p.conditions.params.length]⟩

theorem exists_built {d : Delete} {ctx : Context} {feeds : Feeds} {st : Statement}
    (h : (d.build ctx feeds).result = .ok st) : ∃ p, d.Built ctx feeds p := by
  obtain ⟨t, ht, h⟩ := bind_result_eq_ok.mp h
  obtain ⟨conditions, hc, h⟩ := bind_result_eq_ok.mp h
  refine ⟨⟨t, conditions⟩, ht, hc, ?_⟩
  rw [build, bind_run_of_ok ht, bind_run_of_ok hc]
  rfl

end Delete

end RecordSql
