import RecordSql.Proofs.Mapping.Extraction
import RecordSql.Proofs.Statement.Projection

/-! Rows of selections: a SELECT gives out its columns under the keys that the mappers of its tables
ask a row for. -/

namespace RecordSql

namespace Output

variable (sep : String)

/-- A row with a value for each column that is given out. It may hold more. -/
def Give (outputs : List Output) (value : Output → Column → Value) (es : List (Value × Value)) :
    Prop :=
  ∀ o ∈ outputs, ∀ c ∈ o.table.columns, Value.lookup? es (o.label sep c) = some (value o c)

/-- The names of the columns that are given out, each with a value. -/
def items (outputs : List Output) (value : Output → Column → Value) : List (String × Value) :=
  outputs.flatMap fun o => o.table.columns.map fun c => (o.label sep c, value o c)

/-- A mapper that makes the properties of a table of what a row has of it, whatever else the row
holds. -/
def ReadBy (ctx : Context) (o : Output) (m : Mapper) : Prop :=
  ∀ (value : Column → Value) (es : List (Value × Value)) (serial : Nat) (feeds : Feeds),
    (∀ c ∈ o.table.columns, Value.lookup? es (o.label sep c) = some (value c)) →
    m.extract ctx.registry ctx.objects (.dict es serial) feeds =
      ⟨Mapper.loadAll ctx.objects (o.table.columns.map fun c => (c, value c)), feeds, []⟩

variable {sep} {outputs : List Output}

theorem map_items (value : Output → Column → Value) :
    (items sep outputs value).map (·.1) = outputs.flatMap (·.labels sep) := by
  rw [items, List.map_flatMap]
  refine List.flatMap_congr fun o _ => ?_
  rw [List.map_map]
  rfl

/-- Columns with different names can be given any values. -/
theorem give_items (h : (outputs.flatMap (·.labels sep)).Nodup) (value : Output → Column → Value) :
    Give sep outputs value (Value.entries (items sep outputs value)) := by
  intro o ho c hc
  refine Value.lookup?_entries (map_items value ▸ h) ?_
  exact List.mem_flatMap.mpr ⟨o, ho, List.mem_map.mpr ⟨c, hc, rfl⟩⟩

/-- The mapper of a table whose lead is what stands in front of the names of its columns. -/
theorem readBy_of_lead {ctx : Context} {o : Output} {m : Mapper}
    (ht : ctx.registry.table ctx.objects m.entity = .ok o.table)
    (hl : m.leadFor ctx.objects o.table = .ok (o.name ++ sep)) : o.ReadBy sep ctx m := by
  intro value es serial feeds h
  rw [Mapper.extract_dict ht hl, Mapper.cells_eq_map h]

end Output

/-- The table of a joined relation is read by the mapper of its target. -/
theorem Join.readBy_output {ctx : Context} {t : Table} {request : JoinRequest} {o : Output}
    (h : output ctx t request = .ok o) (sep : String) :
    ∃ r entity, t.relation? ctx.objects request.relation = .ok (some r) ∧
      r.target.resolve ctx.scope = .ok entity ∧
      ∀ config, o.ReadBy sep ctx ⟨entity, .text (r.propertyKey ++ sep), config⟩ := by
  obtain ⟨relation, hr, h⟩ := bind_eq_ok.mp h
  cases relation with
  | none => cases h
  | some r =>
    obtain ⟨entity, he, h⟩ := bind_eq_ok.mp h
    obtain ⟨target, ht, h⟩ := bind_eq_ok.mp h
    cases h
    exact ⟨r, entity, mapError_eq_ok.mp hr, mapError_eq_ok.mp he, fun config =>
      Output.readBy_of_lead ht (Mapper.leadFor_text _ _ _ _)⟩

namespace Select

variable {s : Select} {ctx : Context} {outputs : List Output}

/-- The names of a table and of its alias, where none is given. -/
theorem aliasOf_eq_name {objects : Objects} {t : Table} {given : Value} {tableAlias : String}
    (h : Where.aliasOf objects t given = .ok tableAlias) (hgiven : given.truthy = false) :
    tableAlias = t.name := by
  obtain ⟨isGiven, hg, h⟩ := bind_eq_ok.mp h
  rw [Value.truth_eq_ok hg, hgiven] at h
  cases h
  rfl

/-- If the columns that a SELECT gives out have different names, then a row with a value for each is
read back table by table: the mapper of a table, with the name of the output and the separator for
its lead, finds the values of all columns of this table, and asks for no column of another one. -/
theorem rows_read_back {calls : List Call} (hr : ctx.registry = Registry.after ∅ calls)
    (ho : s.outputs ctx = .ok outputs)
    (hlabels : (outputs.flatMap (·.labels s.config.separator)).Nodup) :
    (∀ feeds st, (s.build ctx feeds).result = .ok st → ∃ rest, st.query = "SELECT " ++
      commaSeparated (outputs.flatMap (·.selections s.config.separator)) ++ " FROM " ++ rest) ∧
    (∀ o ∈ outputs, o.table.propertyKeys.Nodup) ∧
    (outputs.Pairwise fun o o' =>
      (o.labels s.config.separator).Disjoint (o'.labels s.config.separator)) ∧
    (∀ value, ∃ es, Output.Give s.config.separator outputs value es) ∧
    ∃ own joined, outputs = own :: joined ∧
      ctx.registry.table ctx.objects s.entity = .ok own.table ∧
      Where.aliasOf ctx.objects own.table s.tableAlias = .ok own.name ∧
      (∀ config, own.ReadBy s.config.separator ctx
        ⟨s.entity, .text (own.name ++ s.config.separator), config⟩) ∧
      (s.tableAlias.truthy = false →
        own.ReadBy s.config.separator ctx ⟨s.entity, .null, s.config⟩) ∧
      List.Forall₂ (fun request o =>
        ∃ r entity, own.table.relation? ctx.objects request.relation = .ok (some r) ∧
          r.target.resolve ctx.scope = .ok entity ∧
          ∀ config, o.ReadBy s.config.separator ctx
            ⟨entity, .text (r.propertyKey ++ s.config.separator), config⟩) s.joins joined := by
  have hsound : ctx.registry.Sound := hr ▸ Registry.Sound.empty.after calls
  refine ⟨fun feeds st h => ?_, fun o hm => (sound_outputs hsound ho o hm).columns.keys,
    (List.nodup_flatMap.mp hlabels).2, fun value => ⟨_, Output.give_items hlabels value⟩, ?_⟩
  · obtain ⟨outputs', rest, ho', hquery⟩ := exists_outputs h
    cases ho.symm.trans ho'
    exact ⟨rest, hquery⟩
  · obtain ⟨t, ht, h⟩ := bind_eq_ok.mp ho
    obtain ⟨tableAlias, ha, h⟩ := bind_eq_ok.mp h
    obtain ⟨joined, hj, h⟩ := bind_eq_ok.mp h
    cases h
    have halias := mapError_eq_ok.mp ha
    refine ⟨⟨tableAlias, tableAlias, t⟩, joined, rfl, ht, halias, fun config => ?_,
      fun hgiven => ?_, (mapM_eq_ok.mp hj).imp fun _ _ h => Join.readBy_output h _⟩
    · exact Output.readBy_of_lead ht (Mapper.leadFor_text _ _ _ _)
    · refine Output.readBy_of_lead ht ?_
      rw [aliasOf_eq_name halias hgiven]
      exact Mapper.leadFor_null _ _ _

end Select

/-! ### Users and their homes -/

/-- A row of users and their homes. -/
def homeRow : List (Value × Value) :=
  [(.text "user_id", .int 1), (.text "user_address_id", .int 7), (.text "home_id", .int 8)]

/-- The keys of the user and of the home are told apart. -/
theorem Select.rows_read_back_home :
    let read (entity : String) (lead : Value) :=
      ((Mapper.mk (.cls (.plain entity)) lead .usual).extract
        (userContext "home").registry noObjects (.dict homeRow) []).result
    read "User" .null = .ok [("id", .int 1), ("address_id", .int 7)] ∧
      read "Address" (.text "home_") = .ok [("id", .int 8)] := by
  intro read
  have houtputs : (userSelect "home").outputs (userContext "home") =
      .ok [⟨"user", "user", userTable "home"⟩, ⟨"addresses", "home", addressTable⟩] := rfl
  have hcalls : (userContext "home").registry = Registry.after ∅ (userCalls "home") := rfl
  obtain ⟨-, -, -, -, own, joined, heq, -, -, -, hown, hjoined⟩ :=
    Select.rows_read_back hcalls houtputs (by decide)
  cases heq
  have huser := hown rfl (fun c => if c.name = "id" then .int 1 else .int 7) homeRow 0 []
    (List.forall_mem_cons.mpr ⟨rfl, List.forall_mem_singleton.mpr rfl⟩)
  obtain ⟨r, entity, hr, he, hhome⟩ := (List.forall₂_cons.mp hjoined).1
  cases hr
  cases he
  have haddress := hhome .usual (fun _ => .int 8) homeRow 0 [] (List.forall_mem_singleton.mpr rfl)
  exact ⟨congrArg Outcome.result huser, congrArg Outcome.result haddress⟩

end RecordSql
