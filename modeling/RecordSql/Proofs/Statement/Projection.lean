import Mathlib.Data.List.Nodup
import RecordSql.Proofs.Registry.Soundness
import RecordSql.Proofs.Statement.Parts

/-! Projections: the names of the columns that a SELECT gives out. A name is put together from the
alias of the table, or the property of the joined relation, and the name of the column, with nothing
in between but the separator; so columns of two tables can have the same name. -/

namespace RecordSql

open RecordSql.Action

/-- What a SELECT gives out of one table: the name that the table goes by in the statement, what
stands in front of the names of its columns, and the table. -/
structure Output where
  source : String
  name : String
  table : Table

namespace Output

variable (sep : String)

/-- The name of a column. -/
def label (o : Output) (c : Column) : String := o.name ++ sep ++ c.name

def labels (o : Output) : List String := o.table.columns.map (o.label sep)

/-- The selected columns, each with its name. -/
def selections (o : Output) : List String :=
  o.table.columns.map fun c => o.source ++ "." ++ c.name ++ " AS " ++ o.label sep c

theorem project_eq (o : Output) : project o.table o.source o.name sep = o.selections sep := by
  simp only [project, selections, label, String.append_assoc]

/-- A column of one table has the name of a column of another one: what stands in front of the other
one goes on with a part of the first one's own name. -/
def Clashes (o o' : Output) : Prop :=
  ∃ rest, o'.name ++ sep = o.name ++ sep ++ rest ∧
    ∃ c ∈ o.table.columns, ∃ c' ∈ o'.table.columns, c.name = rest ++ c'.name

/-- What stands in front of the names of one table begins with what stands there for another. -/
def Begins (o o' : Output) : Prop := (o.name ++ sep).toList <+: (o'.name ++ sep).toList

variable {sep}

theorem Clashes.begins {o o' : Output} (h : o.Clashes sep o') : o.Begins sep o' := by
  obtain ⟨rest, heq, -⟩ := h
  exact ⟨rest.toList, by rw [← String.toList_append, heq]⟩

end Output

/-- Two ways to cut a text in two: one of the cuts is not after the other. -/
theorem append_eq_append_iff {p q c d : String} :
    p ++ c = q ++ d ↔
      (∃ rest, q = p ++ rest ∧ c = rest ++ d) ∨ ∃ rest, p = q ++ rest ∧ d = rest ++ c := by
  have hcut {p q c d : String} {l : List Char} (hp : q.toList = p.toList ++ l)
      (hc : c.toList = l ++ d.toList) : ∃ rest, q = p ++ rest ∧ c = rest ++ d := by
    refine ⟨String.ofList l, ?_, ?_⟩
    · rw [← String.toList_inj, String.toList_append, String.toList_ofList, hp]
    · rw [← String.toList_inj, String.toList_append, String.toList_ofList, hc]
  constructor
  · intro h
    rw [← String.toList_inj, String.toList_append, String.toList_append,
      List.append_eq_append_iff] at h
    exact h.imp (fun ⟨_, hp, hc⟩ => hcut hp hc) fun ⟨_, hp, hc⟩ => hcut hp hc
  · rintro (⟨rest, rfl, rfl⟩ | ⟨rest, rfl, rfl⟩)
    · rw [String.append_assoc]
    · rw [String.append_assoc]

namespace Output

variable {sep : String}

/-- Columns of two tables have different names unless the tables clash. -/
theorem disjoint_labels {o o' : Output} :
    (o.labels sep).Disjoint (o'.labels sep) ↔ ¬o.Clashes sep o' ∧ ¬o'.Clashes sep o := by
  have hmeet : (∃ c ∈ o.table.columns, ∃ c' ∈ o'.table.columns, o.label sep c = o'.label sep c') ↔
      o.Clashes sep o' ∨ o'.Clashes sep o := by
    constructor
    · rintro ⟨c, hc, c', hc', h⟩
      refine (append_eq_append_iff.mp h).imp ?_ ?_
      · exact fun ⟨rest, hname, hcolumn⟩ => ⟨rest, hname, c, hc, c', hc', hcolumn⟩
      · exact fun ⟨rest, hname, hcolumn⟩ => ⟨rest, hname, c', hc', c, hc, hcolumn⟩
    · rintro (⟨rest, hname, c, hc, c', hc', hcolumn⟩ | ⟨rest, hname, c', hc', c, hc, hcolumn⟩)
      · exact ⟨c, hc, c', hc', append_eq_append_iff.mpr (.inl ⟨rest, hname, hcolumn⟩)⟩
      · exact ⟨c, hc, c', hc', append_eq_append_iff.mpr (.inr ⟨rest, hname, hcolumn⟩)⟩
  rw [← not_or, ← hmeet]
  constructor
  · rintro h ⟨c, hc, c', hc', heq⟩
    exact h (List.mem_map_of_mem hc) (heq ▸ List.mem_map_of_mem hc')
  · intro h name hname hname'
    obtain ⟨c, hc, rfl⟩ := List.mem_map.mp hname
    obtain ⟨c', hc', heq⟩ := List.mem_map.mp hname'
    exact h ⟨c, hc, c', hc', heq.symm⟩

/-- Columns of one table have different names. -/
theorem nodup_labels {o : Output} (h : o.table.Sound) : (o.labels sep).Nodup := by
  have hnames := h.columns.names
  rw [labels, show o.label sep = (o.name ++ sep ++ ·) ∘ (·.name) from rfl, ← List.map_map]
  exact hnames.map fun _ _ heq => (String.append_right_inj _).mp heq

theorem nodup_flatMap_labels {os : List Output} (h : ∀ o ∈ os, o.table.Sound) :
    (os.flatMap (labels sep)).Nodup ↔
      os.Pairwise fun o o' => ¬o.Clashes sep o' ∧ ¬o'.Clashes sep o := by
  rw [List.nodup_flatMap]
  refine ⟨fun ⟨_, hp⟩ => hp.imp disjoint_labels.mp, fun hp => ⟨?_, hp.imp disjoint_labels.mpr⟩⟩
  exact fun o ho => nodup_labels (h o ho)

end Output

/-! ### Statements -/

/-- What a joined relation gives out. -/
def Join.output (ctx : Context) (t : Table) (request : JoinRequest) : Except Error Output := do
  match ← (t.relation? ctx.objects request.relation).mapError .fault with
  | none => throw (.noRelation t.name request.relation)
  | some r =>
    let entity ← (r.target.resolve ctx.scope).mapError .fault
    return ⟨r.targetTable, r.propertyKey, ← ctx.registry.table ctx.objects entity⟩

/-- What a SELECT gives out: its own table, and the tables of its joins. -/
def Select.outputs (s : Select) (ctx : Context) : Except Error (List Output) := do
  let t ← ctx.registry.table ctx.objects s.entity
  let tableAlias ← (Where.aliasOf ctx.objects t s.tableAlias).mapError .fault
  return ⟨tableAlias, tableAlias, t⟩ :: (← s.joins.mapM (Join.output ctx t))

/-- The tables of a registry that is sound are sound. -/
theorem Registry.Sound.table {r : Registry} (hr : r.Sound) {objects : Objects} {entity : Value}
    {t : Table} (h : r.table objects entity = .ok t) : t.Sound := by
  obtain ⟨k, -, h⟩ := bind_eq_ok.mp h
  cases hk : r.tableAt? objects k with
  | none =>
    rw [hk] at h
    cases h
  | some t' =>
    rw [hk] at h
    cases h
    obtain ⟨g, hg, rfl⟩ := Option.map_eq_some_iff.mp hk
    exact hr.tables g (List.mem_of_find?_eq_some hg)

/-- The table of an entity is not found because none is registered, or because the entity cannot be
looked up at all. -/
theorem Registry.table_eq_error {r : Registry} {objects : Objects} {entity : Value} {e : Error}
    (h : r.table objects entity = .error e) :
    e = .notRegistered entity ∨ ∃ f, entity.key objects = .error f ∧ e = .fault f := by
  obtain h | ⟨k, -, h⟩ := bind_eq_error.mp h
  · obtain ⟨f, hf, rfl⟩ := mapError_eq_error.mp h
    exact .inr ⟨f, hf, rfl⟩
  · cases ht : r.tableAt? objects k with
    | none =>
      rw [ht] at h
      exact .inl (Except.error.inj h).symm
    | some t =>
      rw [ht] at h
      cases h

theorem Join.exists_output {ctx : Context} {config : Config} {t : Table} {tableAlias : String}
    {request : JoinRequest} {j : Join} (h : expand ctx config t tableAlias request = .ok j) :
    ∃ o, output ctx t request = .ok o ∧ j.columns = o.selections config.separator := by
  obtain ⟨relation, hr, h⟩ := bind_eq_ok.mp h
  cases relation with
  | none => cases h
  | some r =>
    simp only [expansion, ok_bind] at h
    obtain ⟨entity, he, h⟩ := bind_eq_ok.mp h
    obtain ⟨target, ht, h⟩ := bind_eq_ok.mp h
    obtain ⟨extra, -, h⟩ := bind_eq_ok.mp h
    cases h
    have hproject := Output.project_eq config.separator ⟨r.targetTable, r.propertyKey, target⟩
    refine ⟨⟨r.targetTable, r.propertyKey, target⟩, ?_, hproject⟩
    simp only [output, hr, ok_bind, he, ht]
    rfl

theorem Join.sound_output {ctx : Context} (hr : ctx.registry.Sound) {t : Table}
    {request : JoinRequest} {o : Output} (h : output ctx t request = .ok o) : o.table.Sound := by
  obtain ⟨relation, -, h⟩ := bind_eq_ok.mp h
  cases relation with
  | none => cases h
  | some r =>
    obtain ⟨entity, -, h⟩ := bind_eq_ok.mp h
    obtain ⟨target, ht, h⟩ := bind_eq_ok.mp h
    cases h
    exact hr.table ht

namespace Select

variable {s : Select} {ctx : Context} {feeds : Feeds} {st : Statement}

theorem exists_head (t : Table) (tableAlias separator : String) (joins : List Join) :
    ∃ rest, head t tableAlias separator joins =
      "SELECT " ++ commaSeparated
        (project t tableAlias tableAlias separator ++ joins.flatMap (·.columns)) ++
      " FROM " ++ rest := by
  unfold head
  cases joins with
  | nil =>
    refine ⟨t.name ++ " " ++ tableAlias, ?_⟩
    simp only [List.map_nil, String.intercalate_singleton, String.append_assoc]
  | cons j joins =>
    refine ⟨t.name ++ " " ++ tableAlias ++ " " ++
      " ".intercalate ((j :: joins).map (·.clause)), ?_⟩
    simp only [List.map_cons, String.intercalate_cons_cons, String.append_assoc]

theorem exists_withWhere (start rest : String) (conditions : Statement) :
    ∃ rest', Statement.withWhere (start ++ rest) conditions = start ++ rest' := by
  unfold Statement.withWhere
  split
  · exact ⟨rest, rfl⟩
  · exact ⟨rest ++ (" WHERE " ++ conditions.query), by simp only [String.append_assoc]⟩

/-- The statement begins with what is given out. -/
theorem exists_outputs (h : (s.build ctx feeds).result = .ok st) :
    ∃ outputs rest, s.outputs ctx = .ok outputs ∧
      st.query = "SELECT " ++ commaSeparated (outputs.flatMap (·.selections s.config.separator)) ++
        " FROM " ++ rest := by
  obtain ⟨p, hb⟩ := exists_built h
  obtain ⟨outputs, houtputs, hcolumns⟩ :=
    mapM_related (fun _ _ _ hj => Join.exists_output hj) hb.joins
  have halias : Where.aliasOf ctx.objects p.table s.tableAlias = .ok p.tableAlias := by
    have hwritten := hb.tableAlias
    rw [hb.given] at hwritten
    rw [Where.aliasOf, hb.truth, ok_bind]
    split
    · rwa [if_pos ‹_›] at hwritten
    · rwa [if_neg ‹_›] at hwritten
  have hjoined : p.joins.flatMap (·.columns) =
      outputs.flatMap (·.selections s.config.separator) := by
    have hmap : List.Forall₂ Eq (p.joins.map (·.columns))
        (outputs.map (·.selections s.config.separator)) :=
      List.forall₂_map_left_iff.mpr (List.forall₂_map_right_iff.mpr hcolumns)
    rw [List.forall₂_eq_eq_eq] at hmap
    rw [List.flatMap_def, List.flatMap_def, hmap]
  obtain ⟨rest, hhead⟩ := exists_head p.table p.tableAlias s.config.separator p.joins
  obtain ⟨rest', hrest⟩ := exists_withWhere ("SELECT " ++ commaSeparated
    (project p.table p.tableAlias p.tableAlias s.config.separator ++
      p.joins.flatMap (·.columns)) ++ " FROM ") rest p.conditions
  rw [hb.run] at h
  cases h
  refine ⟨⟨p.tableAlias, p.tableAlias, p.table⟩ :: outputs,
    rest' ++ p.ordering ++ countClause .limit (s.limit.map toString) ++
      countClause .offset (s.offset.map toString), ?_, ?_⟩
  · exact bind_eq_ok.mpr ⟨p.table, hb.table, bind_eq_ok.mpr
      ⟨p.tableAlias, mapError_eq_ok.mpr halias, bind_eq_ok.mpr ⟨outputs, houtputs, rfl⟩⟩⟩
  · have hproject := Output.project_eq s.config.separator ⟨p.tableAlias, p.tableAlias, p.table⟩
    dsimp only [Parts.query]
    rw [hhead, hrest, List.flatMap_cons, ← hproject, hjoined]
    simp only [String.append_assoc]

theorem sound_outputs (hr : ctx.registry.Sound) {outputs : List Output}
    (h : s.outputs ctx = .ok outputs) : ∀ o ∈ outputs, o.table.Sound := by
  obtain ⟨t, ht, h⟩ := bind_eq_ok.mp h
  obtain ⟨tableAlias, -, h⟩ := bind_eq_ok.mp h
  obtain ⟨joined, hj, h⟩ := bind_eq_ok.mp h
  cases h
  refine List.forall_mem_cons.mpr ⟨hr.table ht, fun o ho => ?_⟩
  obtain ⟨request, -, hrequest⟩ := exists_of_mem_mapM hj ho
  exact Join.sound_output hr hrequest

/-- The columns that a SELECT gives out have different names just if no two of its tables clash. It
is enough that what stands in front of the names of one table never begins what stands there for
another. -/
theorem labels_differ_iff {calls : List Call} (hr : ctx.registry = Registry.after ∅ calls)
    (h : (s.build ctx feeds).result = .ok st) :
    ∃ outputs rest, s.outputs ctx = .ok outputs ∧
      st.query = "SELECT " ++ commaSeparated (outputs.flatMap (·.selections s.config.separator)) ++
        " FROM " ++ rest ∧
      ((outputs.flatMap (·.labels s.config.separator)).Nodup ↔
        outputs.Pairwise fun o o' =>
          ¬o.Clashes s.config.separator o' ∧ ¬o'.Clashes s.config.separator o) ∧
      ((outputs.Pairwise fun o o' =>
          ¬o.Begins s.config.separator o' ∧ ¬o'.Begins s.config.separator o) →
        (outputs.flatMap (·.labels s.config.separator)).Nodup) := by
  have hsound : ctx.registry.Sound := hr ▸ Registry.Sound.empty.after calls
  obtain ⟨outputs, rest, ho, hquery⟩ := exists_outputs h
  have hiff := @Output.nodup_flatMap_labels s.config.separator outputs (sound_outputs hsound ho)
  refine ⟨outputs, rest, ho, hquery, hiff, fun hp => hiff.mpr (hp.imp ?_)⟩
  exact fun ⟨hb, hb'⟩ => ⟨fun hc => hb hc.begins, fun hc => hb' hc.begins⟩

end Select

/-! ### Users and their addresses -/

/-- Users with an address, which a relation leads to. -/
def userCalls (relation : String) : List Call :=
  let register (entity : String) (request : Request) : Call :=
    .register ⟨noObjects, .cls (.plain entity), request⟩
  let column (key : String) : Request :=
    .column ⟨.text key, .text key, none, .bool false, .bool false⟩
  [register "Address" (column "id"), register "Address" (.table (.text "addresses")),
    register "User" (column "id"), register "User" (column "address_id"),
    register "User" (.relation ⟨.text "ManyToOne", .text relation, .text "address_id",
      .text "addresses", .text "id", .target (.direct (.cls (.plain "Address")))⟩),
    register "User" (.table (.text "user"))]

def userContext (relation : String) : Context :=
  ⟨Registry.after ∅ (userCalls relation), Operators.builtin, noObjects, fun _ => none⟩

def userSelect (relation : String) : Select :=
  { Select.of (.cls (.plain "User")) .usual with joins := [⟨.text relation, none, none⟩] }

def addressTable : Table :=
  ⟨.cls (.plain "Address"), "addresses", [⟨"id", "id", none, .bool false, .bool false⟩], []⟩

def userTable (relation : String) : Table :=
  ⟨.cls (.plain "User"), "user", [⟨"id", "id", none, .bool false, .bool false⟩,
    ⟨"address_id", "address_id", none, .bool false, .bool false⟩],
    [⟨.manyToOne, relation, "address_id", "addresses", "id", .direct (.cls (.plain "Address"))⟩]⟩

set_option maxRecDepth 8000 in
theorem Select.labels_differ_home :
    ∃ st, ((userSelect "home").build (userContext "home") []).result = .ok st ∧
      st.query = "SELECT user.id AS user_id, user.address_id AS user_address_id, " ++
        "addresses.id AS home_id FROM user user " ++
        "LEFT JOIN addresses ON user.address_id = addresses.id" ∧
      ∃ outputs, (userSelect "home").outputs (userContext "home") = .ok outputs ∧
        (outputs.flatMap (·.labels "_")).Nodup := by
  have h : ((userSelect "home").build (userContext "home") []).result = .ok _ := rfl
  have houtputs : (userSelect "home").outputs (userContext "home") =
      .ok [⟨"user", "user", userTable "home"⟩, ⟨"addresses", "home", addressTable⟩] := rfl
  obtain ⟨outputs, -, ho, -, -, hbegins⟩ := Select.labels_differ_iff rfl h
  cases houtputs.symm.trans ho
  refine ⟨_, h, rfl, _, houtputs, hbegins ?_⟩
  have hne : ¬Output.Begins "_" ⟨"user", "user", userTable "home"⟩
        ⟨"addresses", "home", addressTable⟩ ∧
      ¬Output.Begins "_" ⟨"addresses", "home", addressTable⟩
        ⟨"user", "user", userTable "home"⟩ := by
    unfold Output.Begins
    decide
  exact List.pairwise_pair.mpr hne

set_option maxRecDepth 8000 in
/-- The address of a user is given out under the name that the user's own column has. -/
theorem Select.labels_collide :
    ¬∀ (calls : List Call) (ctx : Context) (s : Select) (feeds : Feeds) (st : Statement)
      (outputs : List Output), ctx.registry = Registry.after ∅ calls → s.config.separator ≠ "" →
      (s.joins.map (·.relation.text?)).Nodup → (s.build ctx feeds).result = .ok st →
      s.outputs ctx = .ok outputs → (outputs.flatMap (·.labels s.config.separator)).Nodup := by
  intro h
  have hnames := h (userCalls "user_address") (userContext "user_address")
    (userSelect "user_address") [] _
    [⟨"user", "user", userTable "user_address"⟩, ⟨"addresses", "user_address", addressTable⟩]
    rfl (by decide) (by decide) rfl rfl
  exact absurd hnames (by decide)

end RecordSql
