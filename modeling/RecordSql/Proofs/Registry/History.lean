import Mathlib.Data.List.Basic
import RecordSql.Proofs.Registry.Soundness
import RecordSql.Proofs.Registry.Stranding

/-! A registry is what its history says.

Of a run only the registrations count that returned normally since all was last forgotten. The first
that named the table of an entity made final what the others had given before; later ones changed
nothing. -/

namespace RecordSql

/-- A call that was made, and how it ended. -/
structure Event where
  call : Call
  result : Except Error Unit
  log : List Notice

namespace Registry

/-- The events of calls that are made one after the other. -/
def history (r : Registry) : List Call → List Event
  | [] => []
  | c :: calls =>
    let o := c.run r
    ⟨c, o.result, o.log⟩ :: history o.state calls

theorem history_append (r : Registry) (calls calls' : List Call) :
    r.history (calls ++ calls') = r.history calls ++ (r.after calls).history calls' := by
  induction calls generalizing r with
  | nil => rfl
  | cons c calls ih => simp only [List.cons_append, history, after_cons, ih]

end Registry

/-- The registrations that returned normally since all was last forgotten. -/
def recent (events : List Event) : List Registration :=
  events.foldl (fun l e => match e with
    | ⟨.clear, _, _⟩ => []
    | ⟨.register x, .ok _, _⟩ => l ++ [x]
    | ⟨.register _, .error _, _⟩ => l) []

theorem recent_concat (events : List Event) (e : Event) :
    recent (events ++ [e]) = match e with
      | ⟨.clear, _, _⟩ => []
      | ⟨.register x, .ok _, _⟩ => recent events ++ [x]
      | ⟨.register _, .error _, _⟩ => recent events := by
  rw [recent, List.foldl_append]
  rfl

/-! ### What registrations give -/

namespace Registration

def isTable (x : Registration) : Bool :=
  match x.request with
  | .table _ => true
  | _ => false

/-- The column that is given, with its transformer and its flags. -/
def column? (x : Registration) : Option Column :=
  match x.request with
  | .column ⟨.text key, .text name, transformer, fromInsert, fromUpdate⟩ =>
    some ⟨key, name, transformer, fromInsert, fromUpdate⟩
  | _ => none

/-- The relation that is given, of a known kind and to what its target stands for. -/
def relation? (x : Registration) : Option Relation :=
  match x.request with
  | .relation ⟨kind, .text key, .text selfReference, .text targetTable, .text targetColumn,
      target⟩ => do
    return ⟨← RelationKind.ofValue? kind, key, selfReference, targetTable, targetColumn,
      ← (target.check x.objects).toOption⟩
  | _ => none

end Registration

/-- The registrations for the entity of a key. -/
def ofKey (k : Key) (l : List Registration) : List Registration := l.filter (·.key? = some k)

/-- The table that the registrations of one entity give: the first name of one, with the columns and
relations before it. -/
def tableGiven? (l : List Registration) : Option Table :=
  match l.find? (·.isTable) with
  | some ⟨_, entity, .table (.text name)⟩ =>
    let before := l.takeWhile (!·.isTable)
    some ⟨entity, name, before.filterMap (·.column?), before.filterMap (·.relation?)⟩
  | _ => none

/-- The keys of the entities whose tables are named, in the order of the first time. -/
def tableKeys (l : List Registration) : List Key :=
  ((l.filter (·.isTable)).filterMap (·.key?)).eraseDups

/-- The tables that registrations give, in the order of their first names. -/
def tablesGiven (l : List Registration) : List Table :=
  (tableKeys l).filterMap fun k => tableGiven? (ofKey k l)

theorem ofKey_concat (k : Key) (l : List Registration) (x : Registration) :
    ofKey k (l ++ [x]) = if x.key? = some k then ofKey k l ++ [x] else ofKey k l := by
  rw [ofKey, List.filter_append]
  by_cases h : x.key? = some k <;> simp [ofKey, h]

theorem find?_concat_of_any {l : List Registration} (h : l.any (·.isTable)) (x : Registration) :
    (l ++ [x]).find? (·.isTable) = l.find? (·.isTable) := by
  obtain ⟨y, hy⟩ := List.find?_isSome.mpr (List.any_eq_true.mp h) |> Option.isSome_iff_exists.mp
  rw [List.find?_append, hy, Option.some_or]

theorem takeWhile_concat_of_any {l : List Registration} (h : l.any (·.isTable))
    (x : Registration) : (l ++ [x]).takeWhile (!·.isTable) = l.takeWhile (!·.isTable) := by
  induction l with
  | nil => simp at h
  | cons y l ih =>
    rw [List.cons_append, List.takeWhile_cons, List.takeWhile_cons]
    by_cases hy : y.isTable
    · simp [hy]
    · rw [List.any_cons, Bool.eq_false_iff.mpr hy, Bool.false_or] at h
      rw [ih h]

/-- A table that is given stays as it is. -/
theorem tableGiven?_concat_of_any {l : List Registration} (h : l.any (·.isTable))
    (x : Registration) : tableGiven? (l ++ [x]) = tableGiven? l := by
  rw [tableGiven?, find?_concat_of_any h, takeWhile_concat_of_any h, tableGiven?]

theorem tableGiven?_of_not_any {l : List Registration} (h : l.any (·.isTable) = false) :
    tableGiven? l = none := by
  have hf : l.find? (·.isTable) = none := by simpa using h
  rw [tableGiven?, hf]

/-- The first name makes a table of what was given before. -/
theorem tableGiven?_concat_table {l : List Registration} (h : l.any (·.isTable) = false)
    (objects : Objects) (entity : Value) (name : String) :
    tableGiven? (l ++ [⟨objects, entity, .table (.text name)⟩]) =
      some ⟨entity, name, l.filterMap (·.column?), l.filterMap (·.relation?)⟩ := by
  have hf : l.find? (·.isTable) = none := by simpa using h
  have ht : ∀ y ∈ l, (!y.isTable) = true := by simpa using h
  rw [tableGiven?, List.find?_append, hf, List.takeWhile_append_of_pos ht]
  simp [Registration.isTable]

/-! ### Entries -/

/-- An entry that the registrations of its entity, if they returned normally, account for. -/
structure Entry.ToldBy (l : List Registration) (e : Entry) : Prop where
  table? : e.table? = tableGiven? l
  table_isSome : l.any (·.isTable) → e.table?.isSome
  columns : e.columns = if l.any (·.isTable) then [] else l.filterMap (·.column?)
  relations : e.relations = if l.any (·.isTable) then [] else l.filterMap (·.relation?)

namespace Registration

variable {objects : Objects} {entity : Value}

theorem column?_of_check {l : List Column} {g : ColumnGiven} {c : Column}
    (h : checkColumn objects entity l g = .ok c) :
    column? ⟨objects, entity, .column g⟩ = some c := by
  obtain ⟨rfl, -⟩ := of_checkColumn h
  rfl

theorem relation?_of_check {l : List Relation} {g : RelationGiven} {r : Relation}
    (h : checkRelation objects entity l g = .ok r) :
    relation? ⟨objects, entity, .relation g⟩ = some r := by
  obtain ⟨kind, propertyKey, selfReference, targetTable, targetColumn, target⟩ := g
  obtain ⟨hkind, htarget, -, ⟨rfl, -⟩, ⟨rfl, -⟩, ⟨rfl, -⟩, rfl, -⟩ := of_checkRelation h
  unfold relation?
  simp only at hkind htarget ⊢
  rw [hkind, htarget]
  rfl

end Registration

namespace Entry.ToldBy

variable {l : List Registration} {e : Entry} {x : Registration}

theorem nil : ToldBy [] {} where
  table? := rfl
  table_isSome := fun h => by simp at h
  columns := rfl
  relations := rfl

theorem table?_eq_none (h : e.ToldBy l) : e.table? = none ↔ l.any (·.isTable) = false := by
  constructor
  · intro he
    refine Bool.eq_false_iff.mpr fun hl => ?_
    simpa [he] using h.table_isSome hl
  · intro hl
    rw [h.table?, tableGiven?_of_not_any hl]

/-- A registration that leaves an entry with a table as it is. -/
theorem ignored (h : e.ToldBy l) (hl : l.any (·.isTable)) (x : Registration) :
    e.ToldBy (l ++ [x]) where
  table? := by rw [h.table?, tableGiven?_concat_of_any hl]
  table_isSome := fun _ => h.table_isSome hl
  columns := by rw [h.columns, List.any_append, hl, Bool.true_or, if_pos rfl, if_pos rfl]
  relations := by rw [h.relations, List.any_append, hl, Bool.true_or, if_pos rfl, if_pos rfl]

/-- A registration that gives a column or a relation before the table is named. -/
theorem gathered (h : e.ToldBy l) (hl : l.any (·.isTable) = false) (hx : x.isTable = false)
    {columns : List Column} (hc : columns = e.columns ++ x.column?.toList)
    {relations : List Relation} (hr : relations = e.relations ++ x.relation?.toList) :
    ToldBy (l ++ [x]) { e with columns, relations } := by
  have hany : (l ++ [x]).any (·.isTable) = false := by
    rw [List.any_append, hl, List.any_cons, hx, List.any_nil]
    rfl
  have hcolumns := h.columns
  have hrelations := h.relations
  rw [hl, if_neg Bool.false_ne_true] at hcolumns hrelations
  exact
    { table? := by rw [tableGiven?_of_not_any hany, h.table?_eq_none.mpr hl]
      table_isSome := fun ht => absurd (ht.symm.trans hany) Bool.true_eq_false.mp
      columns := by
        rw [hany, if_neg Bool.false_ne_true, hc, hcolumns, List.filterMap_append]
        cases hx : x.column? <;> simp [hx]
      relations := by
        rw [hany, if_neg Bool.false_ne_true, hr, hrelations, List.filterMap_append]
        cases hx : x.relation? <;> simp [hx] }

/-- A registration that is checked and made. -/
theorem made (h : e.ToldBy l) (hl : l.any (·.isTable) = false) {a : Addition}
    (hc : x.check e = .ok a) : (e.plus a).ToldBy (l ++ [x]) := by
  obtain ⟨objects, entity, request⟩ := x
  cases request with
  | column g =>
    obtain ⟨c, hg, rfl⟩ := map_eq_ok.mp hc
    refine h.gathered hl rfl ?_ (List.append_nil _).symm
    rw [Registration.column?_of_check hg]
    rfl
  | relation g =>
    obtain ⟨r, hg, rfl⟩ := map_eq_ok.mp hc
    refine h.gathered hl rfl (List.append_nil _).symm ?_
    rw [Registration.relation?_of_check hg]
    rfl
  | table name =>
    obtain ⟨t, ht, rfl⟩ := map_eq_ok.mp hc
    obtain ⟨text, rfl, -, -, rfl⟩ := Registration.of_checkTable ht
    have hany (l : List Registration) :
        (l ++ [(⟨objects, entity, .table (.text text)⟩ : Registration)]).any (·.isTable) =
          true := by
      simp [Registration.isTable]
    have hcolumns := h.columns
    have hrelations := h.relations
    rw [hl, if_neg Bool.false_ne_true] at hcolumns hrelations
    exact
      { table? := by
          rw [tableGiven?_concat_table hl, ← hcolumns, ← hrelations]
          rfl
        table_isSome := fun _ => rfl
        columns := by
          rw [hany, if_pos rfl]
          rfl
        relations := by
          rw [hany, if_pos rfl]
          rfl }

/-- A registration that returns normally joins those that account for the entry. -/
theorem returned (h : e.ToldBy l) (hr : (x.verdict e).result = .ok ()) :
    (e.after x).ToldBy (l ++ [x]) := by
  unfold Entry.after
  cases hl : l.any (·.isTable) with
  | true =>
    have : (x.verdict e).addition? = none := by
      refine Option.eq_none_iff_forall_ne_some.mpr fun a ha => ?_
      have ht := (Registration.addition?_eq_some.mp ha).1
      simpa [ht] using h.table_isSome hl
    rw [this]
    exact h.ignored hl x
  | false =>
    have ht := h.table?_eq_none.mpr hl
    rcases Registration.of_result_eq_ok hr with hs | ⟨a, ha⟩
    · simp [ht] at hs
    · rw [Registration.addition?_eq_some.mpr ⟨ht, ha⟩]
      exact h.made hl ha

end Entry.ToldBy

/-! ### Runs -/

namespace Registry

/-- The registrations among calls on the empty registry that returned normally since all was last
forgotten. -/
def made (calls : List Call) : List Registration := recent (Registry.history ∅ calls)

theorem made_concat_clear (calls : List Call) : made (calls ++ [.clear]) = [] := by
  rw [made, history_append, history, history, recent_concat]

theorem made_concat_of_ok {calls : List Call} {x : Registration}
    (h : (x.run (Registry.after ∅ calls)).result = .ok ()) :
    made (calls ++ [.register x]) = made calls ++ [x] := by
  rw [made, history_append, history, history, recent_concat, Call.run, h, made]

theorem made_concat_of_error {calls : List Call} {x : Registration} {e : Error}
    (h : (x.run (Registry.after ∅ calls)).result = .error e) :
    made (calls ++ [.register x]) = made calls := by
  rw [made, history_append, history, history, recent_concat, Call.run, h, made]

/-- Only registrations of entities that are keys return normally. -/
theorem exists_key_of_ok {x : Registration} {r : Registry} (h : (x.run r).result = .ok ()) :
    ∃ k, x.key? = some k := by
  cases hkey : x.key? with
  | some k => exact ⟨k, rfl⟩
  | none =>
    obtain ⟨f, hk⟩ := Registration.key?_eq_none.mp hkey
    rw [Registration.run_of_unhashable hk] at h
    cases h

/-- The entry of an entity is what the registrations for it account for. -/
theorem entry_toldBy {calls : List Call} (hs : Steady (standing calls)) (hi : Intact calls)
    {objects : Objects} (ho : Sees objects (standing calls)) (k : Key) :
    ((Registry.after ∅ calls).entry objects k).ToldBy (ofKey k (made calls)) := by
  induction calls using List.reverseRecOn generalizing objects k with
  | nil => exact .nil
  | append_singleton calls c ih =>
    cases c with
    | clear =>
      rw [after_concat, made_concat_clear]
      exact .nil
    | register x =>
      rw [standing_concat_register] at hs ho
      have htold := ih hs.of_append hi.of_concat ho.of_append
      cases hr : (x.run (Registry.after ∅ calls)).result with
      | error e =>
        rw [made_concat_of_error hr, after_concat, Call.run, Registration.run_of_error hr hi.last]
        exact htold k
      | ok _ =>
        rw [entry_step hs ho, made_concat_of_ok hr, ofKey_concat]
        split
        · next hk =>
          rw [(run_seen hs ho.of_append hk).1] at hr
          exact (htold k).returned hr
        · exact htold k

end Registry

/-! ### The order of tables -/

theorem mem_tableKeys {l : List Registration} {k : Key} :
    k ∈ tableKeys l ↔ (ofKey k l).any (·.isTable) := by
  simp only [tableKeys, ofKey, List.mem_eraseDups, List.mem_filterMap, List.mem_filter,
    List.any_eq_true, decide_eq_true_eq]
  constructor
  · rintro ⟨x, ⟨hx, ht⟩, hk⟩
    exact ⟨x, ⟨hx, hk⟩, ht⟩
  · rintro ⟨x, ⟨hx, hk⟩, ht⟩
    exact ⟨x, ⟨hx, ht⟩, hk⟩

theorem tableKeys_concat {l : List Registration} {x : Registration} {k : Key}
    (hx : x.key? = some k) : tableKeys (l ++ [x]) =
      if x.isTable ∧ k ∉ tableKeys l then tableKeys l ++ [k] else tableKeys l := by
  rw [tableKeys, List.filter_append, List.filterMap_append, List.eraseDups_append, ← tableKeys]
  by_cases ht : x.isTable
  · by_cases hk : k ∈ tableKeys l
    · have : k ∈ (l.filter (·.isTable)).filterMap (·.key?) := List.mem_eraseDups.mp hk
      simp [ht, hk, hx, List.removeAll, this]
    · have : k ∉ (l.filter (·.isTable)).filterMap (·.key?) := fun h =>
        hk (List.mem_eraseDups.mpr h)
      simp [ht, hk, hx, List.removeAll, this, List.eraseDups_cons]
  · simp [ht, List.removeAll]

theorem tableGiven?_ofKey_concat {l : List Registration} (x : Registration) {k : Key}
    (hk : k ∈ tableKeys l) : tableGiven? (ofKey k (l ++ [x])) = tableGiven? (ofKey k l) := by
  rw [ofKey_concat]
  split
  · exact tableGiven?_concat_of_any (mem_tableKeys.mp hk) x
  · rfl

theorem tablesGiven_concat {l : List Registration} {x : Registration} {k : Key}
    (hx : x.key? = some k) : tablesGiven (l ++ [x]) =
      if x.isTable ∧ k ∉ tableKeys l then
        tablesGiven l ++ (tableGiven? (ofKey k (l ++ [x]))).toList
      else tablesGiven l := by
  have hl : ((tableKeys l).filterMap fun k => tableGiven? (ofKey k (l ++ [x]))) =
      tablesGiven l :=
    List.filterMap_congr fun j hj => tableGiven?_ofKey_concat x hj
  rw [tablesGiven, tableKeys_concat hx]
  split
  · rw [List.filterMap_append, hl]
    cases ht : tableGiven? (ofKey k (l ++ [x])) <;> simp [ht]
  · exact hl

namespace Registry

/-- Final tables stand in the order in which they were first named. -/
theorem values_tables {calls : List Call} (hs : Steady (standing calls)) (hi : Intact calls) :
    Holdings.values (Registry.after ∅ calls).tables = tablesGiven (made calls) := by
  induction calls using List.reverseRecOn with
  | nil => rfl
  | append_singleton calls c ih =>
    rw [after_concat]
    cases c with
    | clear =>
      rw [made_concat_clear]
      rfl
    | register x =>
      rw [standing_concat_register] at hs
      have hentry := entry_toldBy hs.of_append hi.of_concat hs.sees_last.of_append
      replace ih := ih hs.of_append hi.of_concat
      show Holdings.values (x.run (Registry.after ∅ calls)).state.tables = _
      cases hr : (x.run (Registry.after ∅ calls)).result with
      | error e => rw [made_concat_of_error hr, Registration.run_of_error hr hi.last, ih]
      | ok _ =>
        obtain ⟨k, hkey⟩ := exists_key_of_ok hr
        have hk := Registration.key?_eq_some.mp hkey
        rw [made_concat_of_ok hr, tablesGiven_concat hkey]
        rw [Registration.result_run hk] at hr
        have htold := hentry k
        have hafter := htold.returned hr
        rw [Registration.state_run hk, ← ih]
        unfold Entry.after at hafter
        cases ha : (x.verdict ((Registry.after ∅ calls).entry x.objects k)).addition? with
        | none =>
          -- only a table that is there already lets a registration return without an addition
          have hmem : k ∈ tableKeys (made calls) := by
            refine mem_tableKeys.mpr (by_contra fun hany => ?_)
            have hn := htold.table?_eq_none.mpr (Bool.eq_false_iff.mpr hany)
            rcases Registration.of_result_eq_ok hr with hs | ⟨a, hc⟩
            · rw [hn] at hs
              cases hs
            · rw [Registration.addition?_eq_some.mpr ⟨hn, hc⟩] at ha
              cases ha
          rw [if_neg fun h => h.2 hmem]
          rfl
        | some a =>
          obtain ⟨hn, hc⟩ := Registration.addition?_eq_some.mp ha
          have hmem : k ∉ tableKeys (made calls) := by
            rw [mem_tableKeys, htold.table?_eq_none.mp hn]
            exact Bool.false_ne_true
          rw [ha] at hafter
          have hgiven := hafter.table?
          rw [ofKey_concat, if_pos hkey, ← hgiven]
          obtain ⟨objects, entity, request⟩ := x
          cases request with
          | column g =>
            obtain ⟨c, -, rfl⟩ := map_eq_ok.mp hc
            exact (if_neg fun h => Bool.false_ne_true h.1).symm
          | relation g =>
            obtain ⟨c, -, rfl⟩ := map_eq_ok.mp hc
            exact (if_neg fun h => Bool.false_ne_true h.1).symm
          | table name =>
            obtain ⟨t, -, rfl⟩ := map_eq_ok.mp hc
            rw [if_pos ⟨rfl, hmem⟩]
            show Holdings.values (Holdings.put _ _ _ _ _) = _
            rw [Holdings.put_of_get?_eq_none hn, Holdings.values, List.map_append]
            rfl

end Registry

/-! ### The registry and its history -/

/-- A registry that is what registrations say, to one who sees the entities of those that stand. -/
structure Registry.Recounts (r : Registry) (objects : Objects) (standing l : List Registration) :
    Prop where
  /-- An entity has the table that the registrations for it give. -/
  table : ∀ entity, r.table objects entity = match entity.key objects with
    | .error f => .error (.fault f)
    | .ok k => (tableGiven? (ofKey k l)).elim (.error (.notRegistered entity)) .ok
  /-- They give one if one of them names a table. -/
  named : ∀ k, (tableGiven? (ofKey k l)).isSome ↔ ∃ x ∈ l, x.key? = some k ∧ x.isTable
  /-- From then on registrations for the entity change nothing, and return normally if the name can
  be told that their notices show. -/
  writtenOnce : ∀ x : Registration, Sees x.objects standing →
    (∃ y ∈ l, y.isTable ∧ y.key?.isSome ∧ y.key? = x.key?) →
    (x.run r).state = r ∧
      ((x.run r).result = .ok () ↔ ∃ label, x.entity.entityName x.objects = .ok label)
  /-- All tables stand under their entities in the order of their first names. -/
  tables : r.tables.map (fun h => (h.entity, h.held)) = (tablesGiven l).map fun t => (t.entity, t)
  tableNamed : ∀ name, r.tableNamed? objects (.text name) =
    .ok ((tablesGiven l).find? (·.name = name))
  columnNamed : ∀ name key, r.columnNamed? objects (.text name) key =
    match (tablesGiven l).find? (·.name = name) with
    | some t => t.column? objects key
    | none => .ok none

theorem any_ofKey {l : List Registration} {k : Key} :
    (ofKey k l).any (·.isTable) ↔ ∃ x ∈ l, x.key? = some k ∧ x.isTable := by
  simp [ofKey]

namespace Registry

variable {calls : List Call} {objects : Objects}

/-- An entity whose table is named has it for good. -/
theorem run_of_named (hs : Steady (standing calls)) (hi : Intact calls) {x : Registration}
    (ho : Sees x.objects (standing calls)) {k : Key} (hk : x.entity.key x.objects = .ok k)
    (hany : (ofKey k (made calls)).any (·.isTable)) :
    (x.run (Registry.after ∅ calls)).state = Registry.after ∅ calls ∧
      ((x.run (Registry.after ∅ calls)).result = .ok () ↔
        ∃ label, x.entity.entityName x.objects = .ok label) := by
  have hsome := (entry_toldBy hs hi ho k).table_isSome hany
  constructor
  · rw [Registration.state_run hk]
    cases ha : (x.verdict ((Registry.after ∅ calls).entry x.objects k)).addition? with
    | none => rfl
    | some a =>
      rw [(Registration.addition?_eq_some.mp ha).1] at hsome
      cases hsome
  · rw [Registration.result_run hk]
    constructor
    · intro hr
      exact Registration.exists_entityName_of_ok hsome hr
    · rintro ⟨label, hx⟩
      exact (Registration.result_eq_ok hx).mpr (.inl hsome)

/-- A registry is exactly its history: what calls lead to from the empty registry is what those
registrations say that returned normally since all was last forgotten, as long as entities stay the
keys that they were registered as and no table is made final by a call that fails. -/
theorem after_recounts (hs : Steady (standing calls)) (hi : Intact calls)
    (ho : Sees objects (standing calls)) :
    (Registry.after ∅ calls).Recounts objects (standing calls) (made calls) := by
  have htold := entry_toldBy hs hi ho
  have hvalues := values_tables hs hi
  have hnamed (name : String) : (Registry.after ∅ calls).tableNamed? objects (.text name) =
      .ok ((tablesGiven (made calls)).find? (·.name = name)) := by
    rw [tableNamed?, hvalues, Value.sought_text]
    simp only [eq_comm]
  refine ⟨fun entity => ?_, fun k => ?_, ?_, ?_, hnamed, fun name key => ?_⟩
  · rw [table_eq]
    cases entity.key objects with
    | error f => rfl
    | ok k =>
      dsimp only
      rw [(htold k).table?]
  · rw [← any_ofKey]
    constructor
    · intro hsome
      refine by_contra fun hany => ?_
      rw [tableGiven?_of_not_any (Bool.eq_false_iff.mpr hany)] at hsome
      cases hsome
    · exact fun hany => (htold k).table? ▸ (htold k).table_isSome hany
  · rintro x hx ⟨y, hy, hyt, hyk, he⟩
    obtain ⟨k, hyk⟩ := Option.isSome_iff_exists.mp hyk
    exact run_of_named hs hi hx (Registration.key?_eq_some.mp (he.symm.trans hyk))
      (any_ofKey.mpr ⟨y, hy, hyk, hyt⟩)
  · have hown : ∀ h ∈ (Registry.after ∅ calls).tables, (h.entity, h.held) =
        (h.held.entity, h.held) := by
      intro h hh
      rw [(Registry.Sound.empty.after calls).own h hh]
    rw [List.map_congr_left hown, ← hvalues, Holdings.values, List.map_map]
    rfl
  · rw [columnNamed?, hnamed, ok_bind]
    rfl

/-- A run that fails, forgets and comes too late: a table without columns, a column that is
forgotten with its table, and another one after the table is named again. -/
def petCalls : List Call :=
  let pet (request : Request) : Call := .register ⟨noObjects, .cls (.plain "Pet"), request⟩
  let column (key : String) : Request :=
    .column ⟨.text key, .text key, none, .bool false, .bool false⟩
  [pet (.table (.text "pets")), pet (column "name"), pet (.table (.text "pets")), .clear,
    pet (column "id"), pet (.table (.text "animals")), pet (column "age")]

theorem petCalls_classes : ∀ x ∈ registrations petCalls, ∃ c, x.entity = .cls c := by
  intro x hx
  simp only [registrations, petCalls, List.filterMap_cons, Call.registration?, List.filterMap_nil,
    List.mem_cons, List.not_mem_nil, or_false] at hx
  rcases hx with rfl | rfl | rfl | rfl | rfl | rfl <;> exact ⟨_, rfl⟩

theorem after_petCalls_recounts :
    (Steady (standing petCalls) ∧ Intact petCalls ∧ Sees noObjects (standing petCalls)) ∧
      (Registry.after ∅ petCalls).Recounts noObjects (standing petCalls) (made petCalls) ∧
      (tablesGiven (made petCalls)).map (fun t => (t.name, t.propertyKeys)) =
        [("animals", ["id"])] := by
  have hs := (lasting_of_classes petCalls_classes).steady
  have hi := intact_of_classes petCalls_classes
  have ho := (seenBy_of_classes petCalls_classes noObjects).sees
  exact ⟨⟨hs, hi, ho⟩, after_recounts hs hi ho, by decide⟩

/-- An object loses its table when it becomes another key: the table is named by a call that returns
normally, but the object does not have it any more, and it may not be named once again. -/
theorem changed_entity_loses_table :
    let first (request : Request) : Registration :=
      ⟨World.openWorld.view, World.openObject, request⟩
    let table : Registration := first (.table (.text "pets"))
    let again : Registration := { table with objects := World.changedWorld.view }
    let r := Registry.after ∅ [.register (first (.namesake "id"))]
    let s := (table.run r).state
    (table.run r).result.isOk ∧ (s.table World.openWorld.view World.openObject).isOk ∧
      ¬(s.table World.changedWorld.view World.openObject).isOk ∧ ¬(again.run s).result.isOk := by
  decide +kernel

end Registry

end RecordSql
