import RecordSql.Mapper
import RecordSql.Proofs.Refinement

/-! Extraction: what a mapper makes of a row. It asks the row for its lead followed by the name of
each column, and loads what stands there, column after column. -/

namespace RecordSql

open RecordSql.Action

namespace Value

/-- A dictionary holds a text just if something stands under it. -/
theorem any_key_eq_isSome (es : List (Value × Value)) (key : String) :
    (es.any fun e => e.1.text? = some key) = (lookup? es key).isSome := by
  rw [lookup?, Option.isSome_map, List.isSome_find?]

theorem holds_dict (objects : Objects) (es : List (Value × Value)) (serial : Nat) (key : String) :
    (dict es serial).holds objects key = Action.ofFault (.ok (lookup? es key).isSome) := by
  rw [← any_key_eq_isSome]
  rfl

theorem item_dict {es : List (Value × Value)} {key : String} {v : Value}
    (h : lookup? es key = some v) (serial : Nat) : (dict es serial).item key = .ok v := by
  rw [item, h]
  rfl

/-- An entry is found by its text, if no other one has the same. -/
theorem lookup?_entries {l : List (String × Value)} (hl : (l.map (·.1)).Nodup) {key : String}
    {v : Value} (h : (key, v) ∈ l) : lookup? (entries l) key = some v := by
  induction l with
  | nil => cases h
  | cons e l ih =>
    obtain ⟨he, hl⟩ := List.nodup_cons.mp hl
    rcases List.mem_cons.mp h with rfl | h
    · simp [lookup?, entries, text?]
    · have hne : e.1 ≠ key := by
        rintro rfl
        exact he (List.mem_map_of_mem (f := (·.1)) h)
      have hrest := ih hl h
      simpa [lookup?, entries, text?, hne] using hrest

/-- Nothing stands under a text that no entry has. -/
theorem lookup?_entries_eq_none {l : List (String × Value)} {key : String}
    (h : key ∉ l.map (·.1)) : lookup? (entries l) key = none := by
  rw [lookup?, Option.map_eq_none_iff, List.find?_eq_none]
  intro e he
  obtain ⟨p, hp, rfl⟩ := List.mem_map.mp he
  simp only [text?, Option.some.injEq, decide_eq_true_eq]
  rintro rfl
  exact h (List.mem_map_of_mem hp)

end Value

namespace Mapper

/-- The columns of a table that a row has, each with what stands under its key. -/
def cells (t : Table) (lead : String) (es : List (Value × Value)) : List (Column × Value) :=
  t.columns.filterMap fun c => (Value.lookup? es (lead ++ c.name)).map (c, ·)

/-- The property of a column with what is loaded from a value. -/
def loadCell (objects : Objects) (e : Column × Value) : Except Error (String × Value) := do
  return (e.1.propertyKey, ← e.1.loaded objects e.2)

/-- The properties of some columns, each with what is loaded from a value. -/
def loadAll (objects : Objects) (cells : List (Column × Value)) :
    Except Error (List (String × Value)) :=
  cells.mapM (loadCell objects)

theorem loadCell_eq_ok {objects : Objects} {e : Column × Value} {p : String × Value} :
    loadCell objects e = .ok p ↔ p.1 = e.1.propertyKey ∧ e.1.loaded objects e.2 = .ok p.2 := by
  rw [loadCell, bind_eq_ok]
  constructor
  · rintro ⟨v, hv, h⟩
    cases h
    exact ⟨rfl, hv⟩
  · rintro ⟨hkey, hv⟩
    exact ⟨p.2, hv, by rw [← hkey]; rfl⟩

theorem cell_dict (objects : Objects) (lead : String) (es : List (Value × Value)) (serial : Nat)
    (feeds : Feeds) (c : Column) :
    cell objects lead (.dict es serial) c feeds =
      ⟨((Value.lookup? es (lead ++ c.name)).map (c, ·)).elim (.ok none) fun e =>
        (loadCell objects e).map some, feeds, []⟩ := by
  rw [cell, Value.holds_dict]
  cases hv : Value.lookup? es (lead ++ c.name) with
  | none => rfl
  | some v =>
    change ((liftM ((Value.dict es serial).item (lead ++ c.name)) : Action Feeds Value) >>= fun v =>
      liftM (c.loaded objects v) >>= fun w => pure (some (c.propertyKey, w))) feeds = _
    rw [Value.item_dict hv, Option.map_some, Option.elim_some]
    change ((liftM (c.loaded objects v) : Action Feeds Value) >>= fun w =>
      pure (some (c.propertyKey, w))) feeds =
      ⟨(do return (c.propertyKey, ← c.loaded objects v) : Except Error _).map some, feeds, []⟩
    cases c.loaded objects v <;> rfl

variable {m : Mapper} {registry : Registry} {objects : Objects} {t : Table} {lead : String}

/-- A row is only read: what is loaded from its cells is all that the mapper makes of it. -/
theorem extract_dict (ht : registry.table objects m.entity = .ok t)
    (hl : m.leadFor objects t = .ok lead) (es : List (Value × Value)) (serial : Nat)
    (feeds : Feeds) :
    m.extract registry objects (.dict es serial) feeds =
      ⟨loadAll objects (cells t lead es), feeds, []⟩ := by
  have hcells := mapM_computes (cell_dict objects lead es serial feeds) t.columns
  have hlead : (liftM (m.leadFor objects t) : Action Feeds String) feeds =
      ⟨.ok lead, feeds, []⟩ := by
    rw [hl]
    rfl
  have htable : (liftM (registry.table objects m.entity) : Action Feeds Table) feeds =
      ⟨.ok t, feeds, []⟩ := by
    rw [ht]
    rfl
  rw [extract, bind_run_ok htable, bind_run_ok hlead, bind_run, hcells, loadAll, cells,
    ← mapM_filterMap]
  generalize (t.columns.mapM _ : Except Error (List (Option (String × Value)))) = r
  cases r <;> rfl

/-- A lead that is given is taken as it is. -/
theorem leadFor_text (entity : Value) (lead : String) (config : Config) (t : Table) :
    leadFor objects ⟨entity, .text lead, config⟩ t = .ok lead := rfl

/-- Without a lead, the name of the table and the separator are one. -/
theorem leadFor_null (entity : Value) (config : Config) (t : Table) :
    leadFor objects ⟨entity, .null, config⟩ t = .ok (t.name ++ config.separator) := rfl

/-- A row that has all columns of a table. -/
theorem cells_eq_map {es : List (Value × Value)} {value : Column → Value}
    (h : ∀ c ∈ t.columns, Value.lookup? es (lead ++ c.name) = some (value c)) :
    cells t lead es = t.columns.map fun c => (c, value c) := by
  rw [cells, ← List.filterMap_eq_map]
  refine List.filterMap_congr fun c hc => ?_
  rw [h c hc]
  rfl

end Mapper

end RecordSql
