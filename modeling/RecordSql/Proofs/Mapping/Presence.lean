import RecordSql.Proofs.Mapping.Storage

/-! Presence: which properties a mapper finds in a row. They are those of the columns whose keys the
row has, and what else the row holds does not matter. -/

namespace RecordSql

/-- The properties of a table that comes from registrations are distinct. -/
theorem Registry.nodup_propertyKeys {calls : List Call} {objects : Objects} {entity : Value}
    {t : Table} (ht : (Registry.after ∅ calls).table objects entity = .ok t) :
    t.propertyKeys.Nodup :=
  ((Registry.Sound.empty.after calls).table ht).columns.keys

namespace Mapper

/-- The text in front of the names of the columns: the one that is given, be it empty, or else the
name of the table and the separator. -/
def Leads (m : Mapper) (t : Table) (l : String) : Prop :=
  m.lead = .null ∧ l = t.name ++ m.config.separator ∨ m.lead = .text l

theorem Leads.leadFor {m : Mapper} {t : Table} {l : String} (h : m.Leads t l) (objects : Objects) :
    m.leadFor objects t = .ok l := by
  obtain ⟨entity, lead, config⟩ := m
  rcases h with ⟨rfl, rfl⟩ | rfl <;> rfl

/-- The columns of a table that a row has something for, be it null, in their order. -/
def present (t : Table) (lead : String) (es : List (Value × Value)) : List Column :=
  t.columns.filter fun c => (Value.lookup? es (lead ++ c.name)).isSome

/-- What a row has for a column: what the transformer of the column loads, if it has one, and else
what stands in the row. -/
def Supplies (objects : Objects) (lead : String) (es : List (Value × Value)) (c : Column)
    (v : Value) : Prop :=
  ∃ raw, Value.lookup? es (lead ++ c.name) = some raw ∧
    c.transformer.elim (.ok raw) (fun f => f.load objects raw) = .ok v

/-- A property with what a row has for its column. -/
def Extracts (objects : Objects) (lead : String) (es : List (Value × Value)) (c : Column)
    (e : String × Value) : Prop :=
  e.1 = c.propertyKey ∧ Supplies objects lead es c e.2

variable {objects : Objects} {t : Table} {lead : String} {es : List (Value × Value)}

theorem extracts_iff {c : Column} {raw : Value}
    (hraw : Value.lookup? es (lead ++ c.name) = some raw) (e : String × Value) :
    Extracts objects lead es c e ↔ loadCell objects (c, raw) = .ok e := by
  rw [loadCell_eq_ok, Column.loaded_eq_ok, Extracts, Supplies]
  simp [hraw]

/-- What is loaded from a row are the properties of the columns that it has, in their order. -/
theorem loadAll_eq_ok {values : List (String × Value)} :
    loadAll objects (cells t lead es) = .ok values ↔
      List.Forall₂ (Extracts objects lead es) (present t lead es) values := by
  rw [loadAll, mapM_eq_ok, cells, present]
  induction t.columns generalizing values with
  | nil => simp
  | cons c l ih =>
    cases hraw : Value.lookup? es (lead ++ c.name) with
    | none => simpa [hraw] using ih
    | some raw => simp [hraw, List.forall₂_cons_left_iff, extracts_iff hraw, ih]

theorem keys_of_extracts {values : List (String × Value)}
    (h : List.Forall₂ (Extracts objects lead es) (present t lead es) values) :
    values.map (·.1) = (present t lead es).map (·.propertyKey) := by
  generalize present t lead es = columns at h ⊢
  induction h with
  | nil => rfl
  | cons he _ ih => rw [List.map_cons, List.map_cons, ih, he.1]

theorem nodup_keys (ht : t.propertyKeys.Nodup) {values : List (String × Value)}
    (h : List.Forall₂ (Extracts objects lead es) (present t lead es) values) :
    (values.map (·.1)).Nodup := by
  rw [keys_of_extracts h]
  exact ht.sublist (List.filter_sublist.map _)

/-- A property that is extracted is that of a column. -/
theorem column_of_extracts {values : List (String × Value)}
    (h : List.Forall₂ (Extracts objects lead es) (present t lead es) values) {e : String × Value}
    (he : e ∈ values) : ∃ c ∈ t.columns, c.propertyKey = e.1 := by
  obtain ⟨c, hc, hkey, -⟩ := exists_of_mem_forall₂ h he
  exact ⟨c, (List.mem_filter.mp hc).1, hkey.symm⟩

/-- A row can be loaded if no transformer of a column that it has fails. -/
theorem exists_loadAll : (∃ values, loadAll objects (cells t lead es) = .ok values) ↔
    ∀ c ∈ t.columns, ∀ f raw, c.transformer = some f →
      Value.lookup? es (lead ++ c.name) = some raw → ∃ v, f.load objects raw = .ok v := by
  simp only [loadAll_eq_ok, exists_forall₂_iff]
  constructor
  · intro h c hc f raw hf hraw
    have hpresent : c ∈ present t lead es := List.mem_filter.mpr ⟨hc, by simp [hraw]⟩
    obtain ⟨e, -, raw', hraw', hload⟩ := h c hpresent
    cases hraw.symm.trans hraw'
    rw [hf] at hload
    exact ⟨e.2, hload⟩
  · intro h c hc
    obtain ⟨hc, hsome⟩ := List.mem_filter.mp hc
    obtain ⟨raw, hraw⟩ := Option.isSome_iff_exists.mp hsome
    cases hf : c.transformer with
    | none => exact ⟨(c.propertyKey, raw), rfl, raw, hraw, by rw [hf]; rfl⟩
    | some f =>
      obtain ⟨v, hv⟩ := h c hc f raw hf hraw
      exact ⟨(c.propertyKey, v), rfl, raw, hraw, by rw [hf]; exact hv⟩

/-- Of a row nothing matters but what stands under the keys of the columns. -/
theorem cells_congr {es' : List (Value × Value)} (h : ∀ c ∈ t.columns,
    Value.lookup? es' (lead ++ c.name) = Value.lookup? es (lead ++ c.name)) :
    cells t lead es' = cells t lead es := by
  apply List.filterMap_congr
  intro c hc
  rw [h c hc]

/-- A property that the row has nothing for is not extracted. -/
theorem not_mem_keys (ht : t.propertyKeys.Nodup) {values : List (String × Value)}
    (h : List.Forall₂ (Extracts objects lead es) (present t lead es) values) {c : Column}
    (hc : c ∈ t.columns) (hnone : Value.lookup? es (lead ++ c.name) = none) :
    c.propertyKey ∉ values.map (·.1) := by
  rw [keys_of_extracts h]
  intro hmem
  obtain ⟨c', hc', hkey⟩ := List.mem_map.mp hmem
  obtain ⟨hc', hsome⟩ := List.mem_filter.mp hc'
  obtain rfl := List.inj_on_of_nodup_map ht hc' hc hkey
  simp [hnone] at hsome

/-- What the extraction of rows by a mapper is, given the text in front of the names of the columns.
It only reads the row. It succeeds if no transformer fails on a column that the row has; then it
yields the properties of just these columns, each once, and in the order of the columns. Nothing
matters but what stands under the keys of the columns. -/
structure Exact (m : Mapper) (registry : Registry) (objects : Objects) (t : Table) (lead : String) :
    Prop where
  rests : ∀ es n feeds, (m.extract registry objects (.dict es n) feeds).state = feeds
  succeeds : ∀ es n feeds,
    (∃ values, (m.extract registry objects (.dict es n) feeds).result = .ok values) ↔
      ∀ c ∈ t.columns, ∀ f raw, c.transformer = some f →
        Value.lookup? es (lead ++ c.name) = some raw → ∃ v, f.load objects raw = .ok v
  yields : ∀ es n feeds values,
    (m.extract registry objects (.dict es n) feeds).result = .ok values →
    (values.map (·.1)).Nodup ∧
      List.Forall₂ (Extracts objects lead es) (present t lead es) values
  ignores : ∀ es es' n n' feeds, (∀ c ∈ t.columns,
      Value.lookup? es' (lead ++ c.name) = Value.lookup? es (lead ++ c.name)) →
    m.extract registry objects (.dict es' n') feeds = m.extract registry objects (.dict es n) feeds

theorem exact {calls : List Call} {m : Mapper}
    (ht : (Registry.after ∅ calls).table objects m.entity = .ok t) (hl : m.Leads t lead) :
    m.Exact (Registry.after ∅ calls) objects t lead := by
  have hrun (es : List (Value × Value)) (n : Nat) (feeds : Feeds) :
      m.extract (Registry.after ∅ calls) objects (.dict es n) feeds =
        ⟨loadAll objects (cells t lead es), feeds, []⟩ :=
    extract_dict ht (hl.leadFor objects) es n feeds
  constructor
  · intro es n feeds
    rw [hrun]
  · intro es n feeds
    rw [hrun]
    exact exists_loadAll
  · intro es n feeds values h
    rw [hrun] at h
    have hextracts := loadAll_eq_ok.mp h
    exact ⟨nodup_keys (Registry.nodup_propertyKeys ht) hextracts, hextracts⟩
  · intro es es' n n' feeds hsame
    rw [hrun, hrun, cells_congr hsame]

end Mapper

end RecordSql
