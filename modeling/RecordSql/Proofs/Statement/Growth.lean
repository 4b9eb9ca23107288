import RecordSql.Proofs.Agreement
import RecordSql.Proofs.Statement.Repetition

/-! Growth: a statement that can be built once can be built again while more is registered. A build
looks up tables, which stay as they are, and asks objects for what no registration changes: all but
their texts and the attribute that keeps the registry of their class. -/

namespace RecordSql

open RecordSql.Action
open World (registryAttribute)

/-! ### Columns -/

section Columns

variable {objects objects' : Objects} (h : Objects.Agree objects objects') {t : Table}
  (ht : t.Steadfast) {c : Column} (hc : c ∈ t.columns) {v x : Value}

include h ht hc

theorem stored_agreed (hx : Column.stored objects (some c) v = .ok x) :
    Column.stored objects' (some c) v = .ok x := by
  have hs := mapError_eq_ok.mp hx
  refine mapError_eq_ok.mpr ?_
  obtain ⟨propertyKey, name, transformer, fromInsert, fromUpdate⟩ := c
  cases transformer with
  | none => cases v <;> exact hs
  | some f =>
    have hf := fun v x => (ht _ hc f rfl objects objects' h v x).1
    cases v with
    | null => exact hs
    | _ => exact hf _ x hs

theorem loaded_agreed (hx : c.loaded objects v = .ok x) : c.loaded objects' v = .ok x := by
  obtain ⟨propertyKey, name, transformer, fromInsert, fromUpdate⟩ := c
  cases transformer with
  | none => exact hx
  | some f =>
    exact mapError_eq_ok.mpr ((ht _ hc f rfl objects objects' h v x).2 (mapError_eq_ok.mp hx))

end Columns

/-! ### Sources -/

/-- A source in which no column of a table is read from an object under the name of the attribute
that keeps registries. -/
def Source.Unreserved (t : Table) (source : Value) : Prop :=
  (∃ es n, source = .dict es n) ∨ ∀ c ∈ t.columns, c.propertyKey ≠ registryAttribute

namespace Source

variable {objects objects' : Objects} (h : Objects.Agree objects objects')

include h

theorem read_agreed (source : Value) {key : String} (hk : key ≠ registryAttribute) :
    read objects' source key = read objects source key := by
  cases source <;> simp only [read, h.checkClass, h.attrOr _ hk]

theorem variableKeys_agreed (source : Value) :
    variableKeys objects' source = variableKeys objects source := by
  rw [variableKeys, h.attr source (by decide), variableKeys]
  simp only [h.called _ (by decide : "keys" ≠ _)]

theorem presentKeys_agreed (source : Value) :
    presentKeys objects' source = presentKeys objects source := by
  cases source <;>
    simp only [presentKeys, read_agreed h _ (by decide : "model_fields_set" ≠ _),
      variableKeys_agreed h, h.members]

/-- What is bound for a column of a row stays so. -/
theorem cell_agreed {t : Table} (ht : t.Steadfast) {source : Value} (hs : Unreserved t source)
    {c : Column} (hc : c ∈ t.columns) {x : Value} (hx : cell objects source c = .ok x) :
    cell objects' source c = .ok x := by
  obtain ⟨v, hv, hx⟩ := bind_eq_ok.mp hx
  have hread : read objects' source c.propertyKey = read objects source c.propertyKey := by
    rcases hs with ⟨es, n, rfl⟩ | hs
    · rfl
    · exact read_agreed h source (hs c hc)
  rw [cell, hread, hv]
  exact stored_agreed h ht hc hx

end Source

/-- What is assigned to the columns of a table stays so. -/
theorem Update.assignments_agreed {objects objects' : Objects} (h : Objects.Agree objects objects')
    {t : Table} (ht : t.Steadfast) {source : Value} (hs : Source.Unreserved t source)
    {supplied : List Value} {l : List (Column × Value)}
    (hl : assignments objects t source supplied = .ok l) :
    assignments objects' t source supplied = .ok l := by
  obtain ⟨found, hfound, hl⟩ := bind_eq_ok.mp hl
  have hfound' := mapM_agreed (g := assignment objects' source supplied) (fun c hc a ha => by
    obtain ⟨excluded, he, ha⟩ := bind_eq_ok.mp ha
    rw [assignment, h.truth, he, ok_bind]
    split at ha
    · rw [if_pos ‹_›]
      exact ha
    · rw [if_neg ‹_›]
      split at ha
      · obtain ⟨v, hv, ha⟩ := bind_eq_ok.mp ha
        rw [if_pos ‹_›, Source.cell_agreed h ht hs hc hv]
        exact ha
      · rw [if_neg ‹_›]
        exact ha) hfound
  rw [assignments, hfound']
  exact hl

/-! ### Statements -/

theorem Where.columnName_agreed (objects objects' : Objects) (column : Option Column) {key : Value}
    (hk : key.Objectless) : columnName objects column key = columnName objects' column key := by
  cases column with
  | none => exact hk.written objects objects'
  | some c => rfl

/-- A context in which more is registered than in another one, of which every table is left. -/
structure Context.Grown (ctx ctx' : Context) : Prop where
  operators : ctx'.operators = ctx.operators
  scope : ctx'.scope = ctx.scope
  objects : Objects.Agree ctx.objects ctx'.objects
  tables : ∀ c t, ctx.registry.table ctx.objects (.cls c) = .ok t →
    ctx'.registry.table ctx'.objects (.cls c) = .ok t

/-- The keys of conditions. -/
def Where.keys : Value → List Value
  | .dict es _ => es.map (·.1)
  | _ => []

/-- A table whose relations lead to classes. -/
def Table.LeadsToClasses (scope : Scope) (t : Table) : Prop :=
  ∀ r ∈ t.relations, ∀ v, r.target.resolve scope = .ok v → ∃ c, v = .cls c

section Grown

variable {ctx ctx' : Context} (h : ctx.Grown ctx')

include h

namespace Where

variable {t : Table} (config : Config)

theorem qualifier_agreed (mode : AliasMode) {tableAlias : Value} (ha : tableAlias.Objectless) :
    qualifier ctx'.objects mode t tableAlias = qualifier ctx.objects mode t tableAlias := by
  cases mode with
  | none => rfl
  | tableName =>
    rw [qualifier, aliasOf, h.objects.truth, ha.written ctx'.objects ctx.objects, qualifier,
      aliasOf]

theorem columnFor_agreed (key : Value) :
    columnFor ctx'.objects (reading ctx' config) t key =
      columnFor ctx.objects (reading ctx config) t key := by
  rw [columnFor, h.objects.column?, columnFor]
  rfl

variable (ht : t.Steadfast)

include ht

/-- The predicate of an entry stays the same. -/
theorem stays_fragment (hops : ctx.operators.Steadfast) (lead : String) {entry : Value × Value}
    (hk : entry.1.Objectless) :
    Follows (· = ·) (fragment ctx.objects (reading ctx config) t lead entry)
      (fragment ctx'.objects (reading ctx' config) t lead entry) := by
  unfold fragment
  rw [columnFor_agreed h, h.objects.ofValue]
  refine .same (yields_columnFor _ _ _ _) fun column hcolumn => ?_
  refine .bind (.refl _) fun condition _ hcondition => ?_
  subst hcondition
  have hbind : Binding.Follows (Column.stored ctx.objects column)
      (Column.stored ctx'.objects column) := by
    cases column with
    | none => exact fun _ _ hx => hx
    | some c => exact fun v x hx => stored_agreed h.objects ht (mem_of_sought hcolumn) hx
  rw [columnName_agreed ctx'.objects ctx.objects column hk]
  refine .agreedFault (fun _ hn => hn) fun name _ => ?_
  cases condition with
  | literal v => exact .agreed (hbind v) fun _ _ => .refl _
  | operator token operand =>
    have hhandler : (reading ctx' config).handler token = (reading ctx config).handler token := by
      rw [reading, h.operators]
      exact h.objects.handler ctx.operators token
    dsimp only
    rw [hhandler]
    refine .agreed (fun _ hh => hh) fun handle hh => ?_
    obtain ⟨s, -, hs⟩ := Operators.handler_eq_ok hh
    exact hops _ (Assoc.mem_of_get? hs) _ _ h.objects _ _ _ _ hbind

/-- The predicate of conditions stays the same. -/
theorem stays_compile (hops : ctx.operators.Steadfast) {conditions : Value}
    (hc : ∀ k ∈ keys conditions, k.Objectless) (mode : AliasMode) {tableAlias : Value}
    (ha : tableAlias.Objectless) :
    Follows (· = ·) (compile ctx config t conditions mode tableAlias)
      (compile ctx' config t conditions mode tableAlias) := by
  unfold compile compileBy
  rw [h.objects.truth, h.objects.mapping]
  refine .agreedFault (fun _ hb => hb) fun isTrue _ => ?_
  split
  · exact .refl _
  refine .agreed (fun _ hm => hm) fun mode _ => ?_
  rw [qualifier_agreed h mode ha]
  refine .agreedFault (fun _ hl => hl) fun lead _ => .agreedFault (fun _ he => he) ?_
  intro entries hentries
  obtain ⟨n, rfl⟩ := Value.mapping_eq_ok hentries
  refine .bind (.mapM_eq fun e he => ?_) fun _ _ hf => hf ▸ .refl _
  exact stays_fragment h config ht hops lead (hc _ (List.mem_map_of_mem he))

end Where

/-- A relation is joined in the same way. -/
theorem Join.expand_agreed {config : Config} {t : Table} (ht : t.LeadsToClasses ctx.scope)
    {tableAlias : String} {request : JoinRequest} {j : Join}
    (hj : expand ctx config t tableAlias request = .ok j) :
    expand ctx' config t tableAlias request = .ok j := by
  obtain ⟨relation, hr, hj⟩ := bind_eq_ok.mp hj
  rw [expand, expandWith, expandBy, h.objects.relation?, hr, ok_bind]
  cases relation with
  | none => cases hj
  | some r =>
    simp only [expansion, ok_bind, h.scope] at hj ⊢
    obtain ⟨entity, he, hj⟩ := bind_eq_ok.mp hj
    obtain ⟨target, htarget, hj⟩ := bind_eq_ok.mp hj
    obtain ⟨c, rfl⟩ := ht r (mem_of_sought (mapError_eq_ok.mp hr)) _ (mapError_eq_ok.mp he)
    rw [htarget, ok_bind] at hj
    rw [he, ok_bind, h.tables c target htarget, ok_bind]
    exact hj

theorem Select.orderClause_agreed {t : Table} {tableAlias : String}
    {es : List (Value × Except Fault String)} (hes : ∀ e ∈ es, e.1.Objectless) {text : String}
    (ht : orderClause ctx.objects t tableAlias es = .ok text) :
    orderClause ctx'.objects t tableAlias es = .ok text := by
  cases es with
  | nil => exact ht
  | cons e es =>
    obtain ⟨texts, htexts, ht⟩ := bind_eq_ok.mp ht
    have hentries := mapM_agreed (g := orderEntry ctx'.objects t tableAlias) (fun e he b hb => by
      rw [orderEntry, h.objects.column?]
      simp only [Where.columnName_agreed ctx'.objects ctx.objects _ (hes e he)]
      exact hb) htexts
    rw [orderClause, hentries]
    · exact ht
    · exact fun h => nomatch h

end Grown

/-- A row is read in the same way. -/
theorem Mapper.stays_extract {ctx ctx' : Context} (h : ctx.Grown ctx') {m : Mapper} {c : ClassRef}
    (hc : m.entity = .cls c) (hm : m.lead.Objectless)
    (ht : ∀ t, ctx.registry.table ctx.objects m.entity = .ok t → t.Steadfast) (row : Value) :
    Follows (· = ·) (m.extract ctx.registry ctx.objects row)
      (m.extract ctx'.registry ctx'.objects row) := by
  have htables : ∀ t, ctx.registry.table ctx.objects m.entity = .ok t →
      ctx'.registry.table ctx'.objects m.entity = .ok t := by
    rw [hc]
    exact h.tables c
  refine .agreed htables fun t htable => ?_
  have hlead : m.leadFor ctx'.objects t = m.leadFor ctx.objects t := by
    rw [leadFor, hm.written ctx'.objects ctx.objects, leadFor]
  rw [hlead]
  refine .agreedFault (fun _ hl => hl) fun lead _ => .bind (.mapM_eq fun column hcolumn => ?_) ?_
  · unfold cell
    dsimp only
    rw [h.objects.holds]
    refine .bind (.refl _) fun b _ hb => ?_
    subst hb
    split
    · refine .agreedFault (fun _ hi => hi) fun raw _ => .agreed (fun x hx => ?_) fun _ _ => .refl _
      exact loaded_agreed h.objects (ht t htable) hcolumn hx
    · exact .refl _
  · rintro cells _ rfl
    exact .refl _

/-! ### Builders -/

namespace Builder

/-- The values whose texts may stand in a statement: the alias, and the keys of the ordering and of
the conditions, which need not be properties. -/
def written : Builder → List Value
  | .select s => s.tableAlias :: (Assoc.values s.ordering).map (·.1) ++ Where.keys s.conditions
  | .insert _ => []
  | .update u => Where.keys u.conditions
  | .delete d => Where.keys d.conditions

/-- The sources of a statement. -/
def sources : Builder → List Value
  | .insert i => i.rows.getD []
  | .update u => [u.source]
  | _ => []

/-- A builder of a class in whose statement no object's text stands and nothing is read under the
name of the attribute that keeps registries, over a table with steadfast transformers. -/
structure Settled (scope : Scope) (t : Table) (b : Builder) : Prop where
  transformers : t.Steadfast
  targets : t.LeadsToClasses scope
  written : ∀ v ∈ b.written, v.Objectless
  sources : ∀ v ∈ b.sources, Source.Unreserved t v

section

variable {ctx ctx' : Context} (h : ctx.Grown ctx')

include h

theorem stays_select (hops : ctx.operators.Steadfast) {s : Select}
    (htables : ∀ t, ctx.registry.table ctx.objects s.entity = .ok t →
      ctx'.registry.table ctx'.objects s.entity = .ok t)
    (hb : ∀ t, ctx.registry.table ctx.objects s.entity = .ok t →
      (select s).Settled ctx.scope t) :
    Follows (· = ·) (s.build ctx) (s.build ctx') := by
  refine .agreed htables fun t ht => ?_
  have hs := hb t ht
  have hgiven (isGiven : Bool) :
      (if isGiven then s.tableAlias else .text t.name).Objectless := by
    split
    · exact hs.written _ List.mem_cons_self
    · exact Value.objectless_text _
  rw [h.objects.truth]
  refine .agreedFault (fun _ hg => hg) fun isGiven _ => ?_
  dsimp only
  rw [(hgiven isGiven).written ctx'.objects ctx.objects]
  refine .agreedFault (fun _ ha => ha) fun tableAlias _ => ?_
  refine .agreed (fun l => mapM_agreed fun _ _ _ => Join.expand_agreed h hs.targets)
    fun joins _ => ?_
  refine .bind (Where.stays_compile h _ hs.transformers hops
    (fun k hk => hs.written k (List.mem_append_right _ hk)) _ (hgiven isGiven)) ?_
  rintro conditions _ rfl
  refine .agreedFault (fun _ => Select.orderClause_agreed h fun e he => ?_) fun _ _ => .refl _
  obtain ⟨e', he', rfl⟩ := List.mem_map.mp he
  exact hs.written _ (List.mem_append_left _
    (List.mem_cons_of_mem _ (List.mem_map_of_mem he')))

theorem stays_insert {i : Insert}
    (htables : ∀ t, ctx.registry.table ctx.objects i.entity = .ok t →
      ctx'.registry.table ctx'.objects i.entity = .ok t)
    (hb : ∀ t, ctx.registry.table ctx.objects i.entity = .ok t →
      (insert i).Settled ctx.scope t) :
    Follows (· = ·) (i.build ctx) (i.build ctx') := by
  rcases i with ⟨entity, _ | _ | ⟨row, rows⟩⟩
  · exact .fail
  · exact .fail
  refine .agreed htables fun t ht => ?_
  have hs := hb t ht
  have hcolumns : Insert.columns ctx'.objects t = Insert.columns ctx.objects t := by
    unfold Insert.columns
    simp only [h.objects.truth]
  rw [hcolumns]
  refine .agreedFault (fun _ hl => hl) fun columns hl => ?_
  split
  · exact .fail
  refine .agreed (fun l => mapM_agreed fun source hsource _ => mapM_agreed fun c hcolumn _ => ?_)
    fun _ _ => .refl _
  exact Source.cell_agreed h.objects hs.transformers (hs.sources source hsource)
    (mem_of_mem_filterM hl hcolumn)

theorem stays_update (hops : ctx.operators.Steadfast) {u : Update}
    (htables : ∀ t, ctx.registry.table ctx.objects u.entity = .ok t →
      ctx'.registry.table ctx'.objects u.entity = .ok t)
    (hb : ∀ t, ctx.registry.table ctx.objects u.entity = .ok t →
      (update u).Settled ctx.scope t) :
    Follows (· = ·) (u.build ctx) (u.build ctx') := by
  refine .agreed htables fun t ht => ?_
  have hs := hb t ht
  have hsupplied : Update.supplied ctx'.objects u.source =
      Update.supplied ctx.objects u.source := by
    rw [Update.supplied, Source.presentKeys_agreed h.objects, Update.supplied]
  rw [hsupplied]
  refine .bind (.refl _) fun keys _ hkeys => ?_
  subst hkeys
  refine .agreed (fun l => Update.assignments_agreed h.objects hs.transformers
    (hs.sources _ List.mem_cons_self)) fun assigned _ => ?_
  split
  · exact .fail
  refine .bind (Where.stays_compile h _ hs.transformers hops hs.written _ ?_) ?_
  · exact fun _ h => nomatch h
  · rintro conditions _ rfl
    exact .refl _

theorem stays_delete (hops : ctx.operators.Steadfast) {d : Delete}
    (htables : ∀ t, ctx.registry.table ctx.objects d.entity = .ok t →
      ctx'.registry.table ctx'.objects d.entity = .ok t)
    (hb : ∀ t, ctx.registry.table ctx.objects d.entity = .ok t →
      (delete d).Settled ctx.scope t) :
    Follows (· = ·) (d.build ctx) (d.build ctx') := by
  refine .agreed htables fun t ht => ?_
  have hs := hb t ht
  refine .bind (Where.stays_compile h _ hs.transformers hops hs.written _ ?_) ?_
  · exact fun _ h => nomatch h
  · rintro conditions _ rfl
    exact .refl _

/-- A statement that is built in a context is built in every one that has grown from it. -/
theorem stays_build (hops : ctx.operators.Steadfast) {b : Builder} {c : ClassRef}
    (hc : b.entity = .cls c)
    (hb : ∀ t, ctx.registry.table ctx.objects b.entity = .ok t → b.Settled ctx.scope t) :
    Follows (· = ·) (b.build ctx) (b.build ctx') := by
  have htables : ∀ t, ctx.registry.table ctx.objects b.entity = .ok t →
      ctx'.registry.table ctx'.objects b.entity = .ok t := by
    rw [hc]
    exact h.tables c
  cases b with
  | select s => exact stays_select h hops htables hb
  | insert i => exact stays_insert h htables hb
  | update u => exact stays_update h hops htables hb
  | delete d => exact stays_delete h hops htables hb

end

end Builder

end RecordSql
