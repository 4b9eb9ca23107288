import RecordSql.Proofs.Mapping.Extraction
import RecordSql.Proofs.Statement.Parts

/-! Assignments: what an UPDATE makes of a mapping. It goes by the columns of the table, so that
neither the order of the entries nor entries that are of no use to it matter. -/

namespace RecordSql

open RecordSql.Action

/-! ### Entries in another order -/

namespace Value

/-- The texts among the keys of some entries. -/
def keyTexts (es : List (Value × Value)) : List String := es.filterMap fun e => e.1.text?

theorem lookup?_cons (e : Value × Value) (es : List (Value × Value)) (key : String) :
    lookup? (e :: es) key = if e.1.text? = some key then some e.2 else lookup? es key := by
  by_cases h : e.1.text? = some key <;> simp [lookup?, h]

theorem lookup?_append (es es' : List (Value × Value)) (key : String) :
    lookup? (es ++ es') key = (lookup? es key).or (lookup? es' key) := by
  induction es with
  | nil => simp [lookup?]
  | cons e es ih =>
    rw [List.cons_append, lookup?_cons, lookup?_cons, ih]
    split <;> rfl

/-- Of entries whose texts are distinct the order does not matter. -/
theorem lookup?_perm {es es' : List (Value × Value)} (h : es.Perm es') (hd : (keyTexts es).Nodup)
    (key : String) : lookup? es key = lookup? es' key := by
  induction h with
  | nil => rfl
  | @cons e es es' _ ih =>
    have htail : (keyTexts es).Nodup := hd.sublist ((List.sublist_cons_self e es).filterMap _)
    rw [lookup?_cons, lookup?_cons, ih htail]
  | swap a b es =>
    simp only [lookup?_cons]
    by_cases ha : a.1.text? = some key
    · have hb : b.1.text? ≠ some key := by
        intro hb
        simp [keyTexts, ha, hb] at hd
      simp [ha, hb]
    · simp [ha]
  | @trans es es' es'' h _ ih ih' =>
    have hmiddle : (keyTexts es').Nodup := (h.filterMap _).nodup_iff.mp hd
    rw [ih hd, ih' hmiddle]

theorem lookup?_eq_none {es : List (Value × Value)} {key : String} (h : key ∉ keyTexts es) :
    lookup? es key = none := by
  rw [lookup?, Option.map_eq_none_iff, List.find?_eq_none]
  intro e he hkey
  exact h (List.mem_filterMap.mpr ⟨e, he, by simpa using hkey⟩)

/-- Further entries do not matter where they stand, except to their own keys. -/
theorem lookup?_perm_append {es es' extra : List (Value × Value)} (h : es'.Perm (es ++ extra))
    (hd : (keyTexts es').Nodup) {key : String} (hkey : key ∉ keyTexts extra) :
    lookup? es' key = lookup? es key := by
  rw [lookup?_perm h hd, lookup?_append, lookup?_eq_none hkey, Option.or_none]

end Value

namespace Update

/-! ### Columns that are assigned -/

/-- The columns that a mapping has an entry for and that are not excluded, in their order. -/
def updated (es : List (Value × Value)) (t : Table) : List Column :=
  t.columns.filter fun c => !c.excludeFromUpdate.truthy && (Value.lookup? es c.propertyKey).isSome

/-- What is bound for a column of a mapping: what is stored for the value of its entry, and null for
null. -/
def Binds (objects : Objects) (es : List (Value × Value)) (c : Column) (p : Value) : Prop :=
  ∃ v, Value.lookup? es c.propertyKey = some v ∧ Column.stored objects (some c) v = .ok p ∧
    (v = .null → p = .null)

variable {objects : Objects} {es : List (Value × Value)} {n : Nat} {t : Table}

/-- A mapping supplies the keys that it has an entry for. -/
theorem any_key_dict (es : List (Value × Value)) (key : String) :
    ((es.map (·.1)).any fun k => k.text? = some key) = (Value.lookup? es key).isSome := by
  rw [List.any_map, ← Value.any_key_eq_isSome]
  rfl

theorem cell_dict {c : Column} {v : Value} (hv : Value.lookup? es c.propertyKey = some v) :
    Source.cell objects (.dict es n) c = Column.stored objects (some c) v := by
  simp [Source.cell, Source.read, hv, Except.mapError]

/-- The assignment of a column depends on the entry of its key alone, and not even on that one if
the column is excluded. -/
theorem assignment_dict (c : Column) :
    assignment objects (.dict es n) (es.map (·.1)) c =
      (c.excludeFromUpdate.truth objects).mapError .fault >>= fun isExcluded =>
        if isExcluded then .ok none
        else (Value.lookup? es c.propertyKey).elim (.ok none) fun v =>
          (Column.stored objects (some c) v).map fun p => some (c, p) := by
  rw [assignment, any_key_dict]
  refine congrArg _ (funext fun isExcluded => ?_)
  cases isExcluded with
  | true => rfl
  | false =>
    cases hv : Value.lookup? es c.propertyKey with
    | none => rfl
    | some v =>
      simp only [cell_dict hv, Bool.false_eq_true, if_false, Option.isSome_some, if_true,
        Option.elim_some]
      cases Column.stored objects (some c) v <;> rfl

/-- The assignments of a mapping, if it can be told which columns are excluded. -/
theorem assignments_dict (ht : ∀ c ∈ t.columns, ∃ b, c.excludeFromUpdate.truth objects = .ok b) :
    assignments objects t (.dict es n) (es.map (·.1)) =
      (updated es t).mapM fun c => (Source.cell objects (.dict es n) c).map (c, ·) := by
  let isUpdated (c : Column) : Bool :=
    !c.excludeFromUpdate.truthy && (Value.lookup? es c.propertyKey).isSome
  have hassignment : ∀ c ∈ t.columns, assignment objects (.dict es n) (es.map (·.1)) c =
      (Option.guard isUpdated c).elim (.ok none) fun c =>
        ((Source.cell objects (.dict es n) c).map (c, ·)).map some := by
    intro c hc
    obtain ⟨isExcluded, hb⟩ := ht c hc
    have htruthy : c.excludeFromUpdate.truthy = isExcluded := (Value.truth_eq_ok hb).symm
    rw [assignment_dict, hb]
    cases isExcluded with
    | true => simp [Option.guard, isUpdated, htruthy, Except.mapError]
    | false =>
      cases hv : Value.lookup? es c.propertyKey with
      | none => simp [Option.guard, isUpdated, hv, Except.mapError]
      | some v =>
        have hguard : Option.guard isUpdated c = some c := by
          simp [Option.guard, isUpdated, htruthy, hv]
        simp only [hguard, Option.elim_some, cell_dict hv]
        cases Column.stored objects (some c) v <;> rfl
  have hmap : t.columns.mapM (assignment objects (.dict es n) (es.map (·.1))) =
      t.columns.mapM fun c => (Option.guard isUpdated c).elim (.ok none) fun c =>
        ((Source.cell objects (.dict es n) c).map (c, ·)).map some :=
    mapM_congr hassignment
  have hfilter : t.columns.filterMap (Option.guard isUpdated) = updated es t := by
    rw [List.filterMap_eq_filter]
    rfl
  rw [← hfilter, ← mapM_filterMap, ← hmap, assignments]
  cases t.columns.mapM (assignment objects (.dict es n) (es.map (·.1))) <;> rfl

/-- A column is assigned alike from mappings that have the same entry for it, if it is not
excluded, and so from all mappings if it is. -/
theorem assignment_congr {es' : List (Value × Value)} {n' : Nat} {c : Column}
    (h : c.excludeFromUpdate.truthy = false →
      Value.lookup? es' c.propertyKey = Value.lookup? es c.propertyKey) :
    assignment objects (.dict es' n') (es'.map (·.1)) c =
      assignment objects (.dict es n) (es.map (·.1)) c := by
  rw [assignment_dict, assignment_dict]
  cases hb : c.excludeFromUpdate.truth objects with
  | error f => rfl
  | ok isExcluded =>
    cases isExcluded with
    | true => rfl
    | false => rw [h (Value.truth_eq_ok hb).symm]

/-- A column is assigned alike from a mapping and from a source that supplies the same keys and has
the entry of the mapping as its value. -/
theorem assignment_alike {source : Value} {c : Column}
    (h : ∀ v, Value.lookup? es c.propertyKey = some v →
      Source.read objects source c.propertyKey = .ok v) :
    assignment objects source (es.map (·.1)) c =
      assignment objects (.dict es n) (es.map (·.1)) c := by
  cases hv : Value.lookup? es c.propertyKey with
  | none =>
    rw [assignment, assignment, any_key_dict, hv]
    rfl
  | some v =>
    have hcell : Source.cell objects source c = Source.cell objects (.dict es n) c := by
      rw [cell_dict hv, Source.cell, h v hv]
      rfl
    rw [assignment, assignment, hcell]

/-! ### Builds -/

variable {ctx : Context} {u : Update} {feeds : Feeds}

/-- A build from a mapping, which supplies its own keys. -/
theorem build_dict (ht : ctx.registry.table ctx.objects u.entity = .ok t) :
    (u.set (.dict es n)).build ctx feeds = (do
      let assigned ← assignments ctx.objects t (.dict es n) (es.map (·.1))
      if assigned.isEmpty then Action.fail (.nothingToSet t.name)
      else finish t assigned (← Where.compile ctx u.config t u.conditions u.mode .null) :
        Action Feeds Statement) feeds := by
  rw [build, liftM_bind_run, set, ht]
  rfl

/-- Nothing is written for a mapping that has no entry for a column, whatever the conditions are. -/
theorem build_nothing (ht : ctx.registry.table ctx.objects u.entity = .ok t)
    (hflags : ∀ c ∈ t.columns, ∃ b, c.excludeFromUpdate.truth ctx.objects = .ok b)
    (hnone : updated es t = []) :
    (u.set (.dict es n)).build ctx feeds = ⟨.error (.nothingToSet t.name), feeds, []⟩ := by
  rw [build_dict ht, assignments_dict hflags, hnone]
  rfl

/-- The assignments of the columns that a mapping has an entry for, where no transformer fails. -/
theorem exists_assigned
    (hflags : ∀ c ∈ t.columns, ∃ b, c.excludeFromUpdate.truth objects = .ok b)
    (hstored : ∀ c ∈ updated es t, ∀ v, Value.lookup? es c.propertyKey = some v →
      ∃ p, Column.stored objects (some c) v = .ok p) :
    ∃ assigned, assignments objects t (.dict es n) (es.map (·.1)) = .ok assigned ∧
      assigned.map (·.1) = updated es t ∧
      List.Forall₂ (Binds objects es) (updated es t) (assigned.map (·.2)) := by
  have hcell : ∀ c ∈ updated es t, ∃ p, Source.cell objects (.dict es n) c = .ok p ∧
      Binds objects es c p := by
    intro c hc
    have hsome : (Value.lookup? es c.propertyKey).isSome := by
      have hkept := (List.mem_filter.mp hc).2
      simp only [Bool.and_eq_true] at hkept
      exact hkept.2
    obtain ⟨v, hv⟩ := Option.isSome_iff_exists.mp hsome
    obtain ⟨p, hp⟩ := hstored c hc v hv
    have hnull : v = .null → p = .null := by
      rintro rfl
      exact (Except.ok.inj hp).symm
    exact ⟨p, by rw [cell_dict hv, hp], v, hv, hp, hnull⟩
  rw [assignments_dict hflags]
  exact exists_mapM_pairs hcell

/-- What is written for a mapping that has entries for some columns: once the conditions are
compiled, these columns are assigned. -/
theorem build_assigned {assigned : List (Column × Value)}
    (ht : ctx.registry.table ctx.objects u.entity = .ok t)
    (ha : assignments ctx.objects t (.dict es n) (es.map (·.1)) = .ok assigned)
    (hne : assigned ≠ []) :
    (u.set (.dict es n)).build ctx feeds =
      (Where.compile ctx u.config t u.conditions u.mode .null >>= finish t assigned) feeds := by
  obtain ⟨e, assigned, rfl⟩ := List.exists_cons_of_ne_nil hne
  rw [build_dict ht, liftM_bind_run, ha]
  rfl

/-- Where no transformer fails, a mapping that has entries for some columns is written to them. -/
theorem build_updated (ht : ctx.registry.table ctx.objects u.entity = .ok t)
    (hflags : ∀ c ∈ t.columns, ∃ b, c.excludeFromUpdate.truth ctx.objects = .ok b)
    (hne : updated es t ≠ [])
    (hstored : ∀ c ∈ updated es t, ∀ v, Value.lookup? es c.propertyKey = some v →
      ∃ p, Column.stored ctx.objects (some c) v = .ok p) :
    let built := ((u.set (.dict es n)).build ctx feeds).result
    let compiled := (Where.compile ctx u.config t u.conditions u.mode .null feeds).result
    ∃ params, List.Forall₂ (Binds ctx.objects es) (updated es t) params ∧
      (∀ e, compiled = .error e → built = .error e) ∧
      ∀ st, compiled = .ok st → built =
        .ok ⟨Statement.withWhere ("UPDATE " ++ t.name ++ " SET " ++
          commaSeparated ((updated es t).map fun c => c.name ++ " = ?")) st,
          params ++ st.params⟩ := by
  intro built compiled
  obtain ⟨assigned, ha, hcolumns, hparams⟩ := exists_assigned hflags hstored
  have hassigned : assigned ≠ [] := by
    rintro rfl
    exact hne hcolumns.symm
  refine ⟨assigned.map (·.2), hparams, fun e he => ?_, fun st hst => ?_⟩
  · dsimp only [built]
    rw [build_assigned ht ha hassigned, bind_run_of_error he]
  · dsimp only [built]
    rw [build_assigned ht ha hassigned, bind_run_of_ok hst, ← hcolumns, List.map_map]
    rfl

/-- Sources from which all columns are assigned alike are written alike. -/
theorem build_congr {source source' : Value} {keys keys' : List Value}
    (hs : supplied ctx.objects source feeds = ⟨.ok keys, feeds, []⟩)
    (hs' : supplied ctx.objects source' feeds = ⟨.ok keys', feeds, []⟩)
    (h : ∀ t, ctx.registry.table ctx.objects u.entity = .ok t → ∀ c ∈ t.columns,
      assignment ctx.objects source keys c = assignment ctx.objects source' keys' c) :
    (u.set source).build ctx feeds = (u.set source').build ctx feeds := by
  cases ht : ctx.registry.table ctx.objects u.entity with
  | error e => simp only [build, set, liftM_bind_run, ht]
  | ok t =>
    have hassigned : assignments ctx.objects t source keys =
        assignments ctx.objects t source' keys' := by
      rw [assignments, assignments, mapM_congr (h t ht)]
    simp only [build, set, liftM_bind_run, ht, bind_run_ok hs, bind_run_ok hs', hassigned]

end Update

end RecordSql
