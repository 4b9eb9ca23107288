import RecordSql.Builder
import RecordSql.Proofs.Refinement
import RecordSql.Proofs.Statement.Marks

/-! Statements whose texts come without placeholders: the texts of the caller that go into a
statement, and the parts that are made from nothing else. -/

namespace RecordSql

open Text (plain_append)

/-! ### Texts of the caller -/

structure Table.Plain (t : Table) : Prop where
  name : Text.Plain t.name
  columns : ∀ c ∈ t.columns, Text.Plain c.name

structure Relation.Plain (r : Relation) : Prop where
  propertyKey : Text.Plain r.propertyKey
  selfReference : Text.Plain r.selfReference
  targetTable : Text.Plain r.targetTable
  targetColumn : Text.Plain r.targetColumn

/-- A key without placeholders, unless it is a property and stands for its column. -/
def Table.PlainKey (objects : Objects) (t : Table) (key : Value) : Prop :=
  t.column? objects key = .ok none → ∀ s, key.written objects = .ok s → Text.Plain s

/-- What a join is made from: the relation, the table it leads to and the further predicate. -/
def JoinRequest.Plain (ctx : Context) (t : Table) (j : JoinRequest) : Prop :=
  ∀ r, t.relation? ctx.objects j.relation = .ok (some r) →
    r.Plain ∧
    (∀ entity target, r.target.resolve ctx.scope = .ok entity →
      ctx.registry.table ctx.objects entity = .ok target → target.Plain) ∧
    ∀ f s, j.on = some f → f r.targetTable = .ok s → Text.Plain s

def Where.Plain (objects : Objects) (t : Table) (conditions : Value) : Prop :=
  ∀ entries, conditions.mapping objects = .ok entries → ∀ e ∈ entries, t.PlainKey objects e.1

structure Select.Plain (ctx : Context) (t : Table) (s : Select) : Prop where
  tableAlias : ∀ a, Where.aliasOf ctx.objects t s.tableAlias = .ok a → Text.Plain a
  separator : Text.Plain s.config.separator
  joins : ∀ j ∈ s.joins, j.Plain ctx t
  conditions : Where.Plain ctx.objects t s.conditions
  ordering : ∀ e ∈ Assoc.values s.ordering, t.PlainKey ctx.objects e.1

namespace Builder

/-- The texts besides the table's own that a builder is given. -/
def PlainFor (ctx : Context) (t : Table) : Builder → Prop
  | .select s => s.Plain ctx t
  | .insert _ => True
  | .update u => Where.Plain ctx.objects t u.conditions
  | .delete d => Where.Plain ctx.objects t d.conditions

/-- No text of the caller that goes into the statement has placeholders. -/
def Plain (ctx : Context) (b : Builder) : Prop :=
  ∀ t, ctx.registry.table ctx.objects b.entity = .ok t → t.Plain ∧ b.PlainFor ctx t

end Builder

/-! ### Names -/

theorem mem_of_sought {α : Type} {objects : Objects} {v : Value} {l : List α} {name : α → String}
    {a : α} (h : v.sought objects l name = .ok (some a)) : a ∈ l := by
  cases l with
  | nil => cases h
  | cons b l =>
    obtain ⟨-, -, h⟩ := bind_eq_ok.mp h
    exact List.mem_of_find?_eq_some (Except.ok.inj h)

/-- The name that stands in a statement for a key, be it a property or not. -/
theorem Table.Plain.columnName {objects : Objects} {t : Table} (ht : t.Plain) {key : Value}
    (hk : t.PlainKey objects key) {column : Option Column}
    (hc : t.column? objects key = .ok column) {s : String}
    (hs : Where.columnName objects column key = .ok s) : Text.Plain s := by
  cases column with
  | none => exact hk hc s hs
  | some c =>
    cases hs
    exact ht.columns c (mem_of_sought hc)

namespace Where

theorem plain_aliasOf_null (objects : Objects) {t : Table} (ht : t.Plain) :
    ∀ a, aliasOf objects t .null = .ok a → Text.Plain a := by
  rintro _ ⟨⟩
  exact ht.name

theorem plain_aliasOf {objects : Objects} {t : Table} (ht : t.Plain) {tableAlias : Value}
    (ha : ∀ a, tableAlias.written objects = .ok a → Text.Plain a) :
    ∀ a, aliasOf objects t tableAlias = .ok a → Text.Plain a := by
  intro a h
  obtain ⟨isGiven, -, h⟩ := bind_eq_ok.mp h
  cases isGiven with
  | false =>
    cases h
    exact ht.name
  | true => exact ha a h

theorem plain_qualifier {objects : Objects} {t : Table} {mode : AliasMode} {tableAlias : Value}
    (ha : ∀ a, aliasOf objects t tableAlias = .ok a → Text.Plain a) {lead : String}
    (h : qualifier objects mode t tableAlias = .ok lead) : Text.Plain lead := by
  cases mode with
  | none =>
    cases h
    decide
  | tableName =>
    obtain ⟨a, hal, rfl⟩ := map_eq_ok.mp h
    exact plain_append.mpr ⟨ha a hal, by decide⟩

theorem yields_columnFor (objects : Objects) (r : Reading) (t : Table) (key : Value) :
    Action.Yields (t.column? objects key = .ok ·) (columnFor objects r t key) := by
  refine .bind (.liftedFault _) fun column hc => ?_
  cases column with
  | some c => exact .pure hc
  | none =>
    exact .bind (.any _) fun strict _ => .ite (fun _ => .fail _) fun _ =>
      .bind (.any _) fun _ _ => .pure hc

end Where

/-! ### Parts of statements -/

/-- The text in front of the rows. -/
theorem Insert.plain_start {t : Table} (ht : t.Plain) {columns : List Column}
    (hc : ∀ c ∈ columns, c ∈ t.columns) :
    Text.Plain ("INSERT INTO " ++ t.name ++ "(" ++ commaSeparated (columns.map (·.name)) ++
      ") VALUES ") := by
  have hnames : Text.Plain (commaSeparated (columns.map (·.name))) := by
    refine Text.Plain.commaSeparated fun s hs => ?_
    obtain ⟨c, hmem, rfl⟩ := List.mem_map.mp hs
    exact ht.columns c (hc c hmem)
  simp +decide [ht.name, hnames]

theorem Insert.mem_columns {objects : Objects} {t : Table} {l : List Column}
    (h : columns objects t = .ok l) : ∀ c ∈ l, c ∈ t.columns :=
  fun _ => mem_of_mem_filterM h

theorem plain_project {t : Table} (ht : t.Plain) {source output separator : String}
    (hs : Text.Plain source) (ho : Text.Plain output) (hp : Text.Plain separator) :
    ∀ s ∈ project t source output separator, Text.Plain s := by
  intro s h
  obtain ⟨c, hc, rfl⟩ := List.mem_map.mp h
  simp +decide [hs, ho, hp, ht.columns c hc]

structure Join.Plain (j : Join) : Prop where
  columns : ∀ s ∈ j.columns, Text.Plain s
  clause : Text.Plain j.clause

namespace Join

theorem plain_condition {tableAlias : String} (ha : Text.Plain tableAlias) {r : Relation}
    (hr : r.Plain) {extra : String} (he : Text.Plain extra) :
    Text.Plain (condition tableAlias r extra) := by
  have h : Text.Plain (tableAlias ++ "." ++ r.selfReference ++ " = " ++ r.targetTable ++ "." ++
      r.targetColumn) := by
    simp +decide [ha, hr.selfReference, hr.targetTable, hr.targetColumn]
  rw [condition]
  split
  · exact h
  · simp +decide [h, he]

theorem plain_expand {ctx : Context} {config : Config} (hc : Text.Plain config.separator)
    {t : Table} {tableAlias : String} (ha : Text.Plain tableAlias) {request : JoinRequest}
    (hr : request.Plain ctx t) {j : Join}
    (h : expand ctx config t tableAlias request = .ok j) : j.Plain := by
  obtain ⟨relation, hrel, h⟩ := bind_eq_ok.mp h
  cases relation with
  | none => cases h
  | some r =>
    obtain ⟨hplain, htarget, hon⟩ := hr r (mapError_eq_ok.mp hrel)
    simp only [expansion, ok_bind] at h
    obtain ⟨entity, hentity, h⟩ := bind_eq_ok.mp h
    obtain ⟨target, htable, h⟩ := bind_eq_ok.mp h
    obtain ⟨extra, hextra, h⟩ := bind_eq_ok.mp h
    have ht : target.Plain := htarget entity target (mapError_eq_ok.mp hentity) htable
    have he : Text.Plain extra := by
      cases hf : request.on with
      | none =>
        rw [hf] at hextra
        cases hextra
        decide
      | some f =>
        rw [hf] at hextra
        exact hon f extra hf (mapError_eq_ok.mp hextra)
    cases h
    refine ⟨plain_project ht hplain.targetTable hplain.propertyKey hc, ?_⟩
    have hk : ∀ k : JoinType, Text.Plain k.keyword := by
      intro k
      cases k <;> decide
    simp +decide [hk, hplain.targetTable, plain_condition ha hplain he]

end Join

namespace Select

/-- The text of the alias, which is that of the table's name if none is given. -/
theorem Plain.written {ctx : Context} {t : Table} (ht : t.Plain) {s : Select} (hs : s.Plain ctx t)
    {isGiven : Bool} (hg : s.tableAlias.truth ctx.objects = .ok isGiven) :
    ∀ a, (if isGiven then s.tableAlias else .text t.name).written ctx.objects = .ok a →
      Text.Plain a := by
  intro a h
  cases isGiven with
  | false =>
    cases h
    exact ht.name
  | true => exact hs.tableAlias a (bind_eq_ok.mpr ⟨true, hg, h⟩)

theorem plain_head {ctx : Context} {t : Table} (ht : t.Plain) {s : Select} (hs : s.Plain ctx t)
    {tableAlias : String} (ha : Text.Plain tableAlias) {joins : List Join}
    (hj : s.joins.mapM (Join.expand ctx s.config t tableAlias) = .ok joins) :
    Text.Plain (head t tableAlias s.config.separator joins) := by
  have hjoins : ∀ j ∈ joins, j.Plain := by
    intro j hmem
    obtain ⟨request, hr, h⟩ := exists_of_mem_mapM hj hmem
    exact Join.plain_expand hs.separator ha (hs.joins request hr) h
  have hc : ∀ u ∈ project t tableAlias tableAlias s.config.separator ++
      joins.flatMap (·.columns), Text.Plain u := by
    intro u h
    rcases List.mem_append.mp h with h | h
    · exact plain_project ht ha ha hs.separator u h
    · obtain ⟨j, hmem, h⟩ := List.mem_flatMap.mp h
      exact (hjoins j hmem).columns u h
  refine Text.Plain.intercalate (by decide) fun u h => ?_
  rcases List.mem_cons.mp h with rfl | h
  · simp +decide [Text.Plain.commaSeparated hc, ht.name, ha]
  · obtain ⟨j, hmem, rfl⟩ := List.mem_map.mp h
    exact (hjoins j hmem).clause

theorem plain_orderClause {objects : Objects} {t : Table} (ht : t.Plain) {tableAlias : String}
    (ha : Text.Plain tableAlias) {es : List (Value × SortDirection)}
    (hk : ∀ e ∈ es, t.PlainKey objects e.1) {s : String}
    (h : orderClause objects t tableAlias (es.map fun e => (e.1, .ok e.2.label)) = .ok s) :
    Text.Plain s := by
  have hentry : ∀ e ∈ es, ∀ s,
      orderEntry objects t tableAlias (e.1, .ok e.2.label) = .ok s → Text.Plain s := by
    intro e he s h
    obtain ⟨column, hc, h⟩ := bind_eq_ok.mp h
    obtain ⟨name, hn, h⟩ := bind_eq_ok.mp h
    have hl : Text.Plain e.2.label := by cases e.2 <;> decide
    cases h
    simp +decide [ha, ht.columnName (hk e he) hc hn, hl]
  cases es with
  | nil =>
    cases h
    decide
  | cons e es =>
    obtain ⟨l, hl, h⟩ := bind_eq_ok.mp h
    cases h
    refine plain_append.mpr ⟨by decide, Text.Plain.commaSeparated fun s hs => ?_⟩
    obtain ⟨_, hmem, hs⟩ := exists_of_mem_mapM hl hs
    obtain ⟨e', he', rfl⟩ := List.mem_map.mp hmem
    exact hentry e' he' s hs

theorem plain_countClause (clause : CountClause) (n : Option Nat) :
    Text.Plain (countClause clause (n.map toString)) := by
  cases n with
  | none => simp +decide [countClause]
  | some n => cases clause <;> simp +decide [countClause, Text.plain_repr]

end Select

end RecordSql
