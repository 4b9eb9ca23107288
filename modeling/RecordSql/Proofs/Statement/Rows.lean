import RecordSql.Proofs.Mapping.Storage
import RecordSql.Proofs.Registry.Refusals
import RecordSql.Proofs.Statement.Placeholders

/-! Rows: the whole of an INSERT. Its text and its values come from two loops; both go over the rows
in their order, and over the columns that are not excluded in the order of their registration. -/

namespace RecordSql

open RecordSql.Action

/-! ### Values of a source -/

/-- What a source gives for a property: the entry of a mapping or the attribute of anything else,
and null where there is none. -/
inductive Source.Gives (objects : Objects) : Value → String → Value → Prop
  | entry {es : List (Value × Value)} {serial : Nat} {key : String} {v : Value}
    (h : Value.lookup? es key = some v) : Gives objects (.dict es serial) key v
  | noEntry {es : List (Value × Value)} {serial : Nat} {key : String}
    (h : Value.lookup? es key = none) : Gives objects (.dict es serial) key .null
  | attr {source v : Value} {key : String} (hs : ∀ es serial, source ≠ .dict es serial)
    (hc : source.checkClass objects = .ok ()) (h : source.attr objects key = .ok v) :
    Gives objects source key v
  | noAttr {source : Value} {key : String} {f : Fault}
    (hs : ∀ es serial, source ≠ .dict es serial) (hc : source.checkClass objects = .ok ())
    (h : source.attr objects key = .error f) (hf : f.kind = .attr) :
    Gives objects source key .null

namespace Source

variable {objects : Objects} {source v : Value} {key : String}

/-- Mappings give something for every property. -/
theorem exists_gives_dict (objects : Objects) (es : List (Value × Value)) (serial : Nat)
    (key : String) : ∃ v, Gives objects (.dict es serial) key v := by
  cases h : Value.lookup? es key with
  | none => exact ⟨.null, .noEntry h⟩
  | some v => exact ⟨v, .entry h⟩

theorem read_of_ne_dict (hs : ∀ es serial, source ≠ .dict es serial) :
    read objects source key =
      source.checkClass objects >>= fun _ => source.attrOr objects key .null := by
  cases source with
  | dict es serial => exact absurd rfl (hs es serial)
  | _ => rfl

theorem attrOr_eq_ok : source.attrOr objects key .null = .ok v ↔
    source.attr objects key = .ok v ∨
      v = .null ∧ ∃ f, source.attr objects key = .error f ∧ f.kind = .attr := by
  rw [Value.attrOr]
  cases source.attr objects key with
  | ok w => simp [Fault.ifPresent, pure, Except.pure]
  | error f =>
    by_cases hf : f.kind = .attr
    · simp [Fault.ifPresent, hf, pure, Except.pure, eq_comm]
    · simp [Fault.ifPresent, hf]

theorem read_eq_ok : read objects source key = .ok v ↔ Gives objects source key v := by
  by_cases hs : ∀ es serial, source ≠ .dict es serial
  · rw [read_of_ne_dict hs, bind_eq_ok]
    constructor
    · rintro ⟨⟨⟩, hc, h⟩
      obtain h | ⟨rfl, f, h, hf⟩ := attrOr_eq_ok.mp h
      · exact .attr hs hc h
      · exact .noAttr hs hc h hf
    · intro h
      cases h with
      | entry => exact absurd rfl (hs _ _)
      | noEntry => exact absurd rfl (hs _ _)
      | attr _ hc h => exact ⟨(), hc, attrOr_eq_ok.mpr (.inl h)⟩
      | noAttr _ hc h hf => exact ⟨(), hc, attrOr_eq_ok.mpr (.inr ⟨rfl, _, h, hf⟩)⟩
  · simp only [ne_eq, not_forall, not_not] at hs
    obtain ⟨es, serial, rfl⟩ := hs
    constructor
    · intro h
      cases hl : Value.lookup? es key with
      | none =>
        simp only [read, hl] at h
        cases h
        exact .noEntry hl
      | some w =>
        simp only [read, hl] at h
        cases h
        exact .entry hl
    · intro h
      cases h with
      | entry h => simp [read, h]
      | noEntry h => simp [read, h]
      | attr hs => exact absurd rfl (hs _ _)
      | noAttr hs => exact absurd rfl (hs _ _)

theorem cell_eq_ok {c : Column} {p : Value} : cell objects source c = .ok p ↔
    ∃ v, Gives objects source c.propertyKey v ∧ Column.stored objects (some c) v = .ok p := by
  rw [cell, bind_eq_ok]
  simp only [mapError_eq_ok, read_eq_ok]

/-- A cell is refused by a fault of the source or by the transformer of the column. -/
theorem cell_not_build {c : Column} {e : Error} (h : cell objects source c = .error e) :
    e.family ≠ .build := by
  obtain h | ⟨v, -, h⟩ := bind_eq_error.mp h
  · obtain ⟨f, -, rfl⟩ := mapError_eq_error.mp h
    simp [Error.family]
  · obtain ⟨f, -, rfl⟩ := mapError_eq_error.mp h
    simp [Error.family]

end Source

theorem Registry.table_not_build {r : Registry} {objects : Objects} {entity : Value} {e : Error}
    (h : r.table objects entity = .error e) : e.family ≠ .build := by
  obtain rfl | ⟨f, -, rfl⟩ := Registry.table_eq_error h
  · simp [Error.family]
  · simp [Error.family]

namespace Insert

/-! ### Builds -/

variable {ctx : Context} {i : Insert} {feeds : Feeds} {t : Table} {columns : List Column}
  {rows : List Value}

/-- The result of a build with some rows, whose table is registered. -/
theorem build_result (hrows : i.rows = some rows) (hne : rows ≠ [])
    (ht : ctx.registry.table ctx.objects i.entity = .ok t)
    (hc : Insert.columns ctx.objects t = .ok columns) :
    (i.build ctx feeds).result =
      if columns = [] then .error (.allExcluded t.name)
      else (rows.mapM (Source.bound ctx.objects columns)).map fun params =>
        ⟨text t columns rows.length, params.flatten⟩ := by
  obtain ⟨source, rows, rfl⟩ := List.exists_cons_of_ne_nil hne
  rw [build, hrows]
  dsimp only
  rw [liftM_bind_run, ht]
  dsimp only
  rw [liftM_fault_bind_run, hc]
  cases columns with
  | nil => rfl
  | cons c columns =>
    simp only [List.isEmpty_cons, Bool.false_eq_true, if_false, reduceCtorEq, liftM_bind_run]
    cases (source :: rows).mapM (Source.bound ctx.objects (c :: columns)) with
    | error e => rfl
    | ok params => rfl

/-- The library's own refusals of an INSERT. -/
theorem refused_iff : (∃ e, (i.build ctx feeds).result = .error e ∧ e.family = .build) ↔
    i.rows = none ∨ i.rows = some [] ∨
      ∃ t, ctx.registry.table ctx.objects i.entity = .ok t ∧
        Insert.columns ctx.objects t = .ok [] := by
  rcases i with ⟨entity, _ | _ | ⟨source, rows⟩⟩
  · exact ⟨fun _ => .inl rfl, fun _ => ⟨.noValues, rfl, rfl⟩⟩
  · exact ⟨fun _ => .inr (.inl rfl), fun _ => ⟨.emptyBatch, rfl, rfl⟩⟩
  simp only [reduceCtorEq, Option.some.injEq, false_or]
  constructor
  · rintro ⟨e, h, he⟩
    cases ht : ctx.registry.table ctx.objects entity with
    | error e' =>
      simp only [build, liftM_bind_run, ht] at h
      cases h
      exact absurd he (Registry.table_not_build ht)
    | ok t =>
      refine ⟨t, rfl, ?_⟩
      cases hc : columns ctx.objects t with
      | error f =>
        simp only [build, liftM_bind_run, liftM_fault_bind_run, ht, hc] at h
        cases h
        simp [Error.family] at he
      | ok columns =>
        rw [build_result (by rfl) (by simp) ht hc] at h
        split at h
        · rw [‹columns = []›]
        · obtain ⟨source', -, hbound⟩ := exists_of_mapM_error (map_eq_error.mp h)
          obtain ⟨c, -, hcell⟩ := exists_of_mapM_error hbound
          exact absurd he (Source.cell_not_build hcell)
  · rintro ⟨t, ht, hc⟩
    refine ⟨.allExcluded t.name, ?_, rfl⟩
    rw [build_result (by rfl) (by simp) ht hc, if_pos rfl]

/-- A build with some columns succeeds if and only if all its cells have a value that is stored. -/
theorem exists_build_iff (hrows : i.rows = some rows) (hne : rows ≠ [])
    (ht : ctx.registry.table ctx.objects i.entity = .ok t)
    (hc : Insert.columns ctx.objects t = .ok columns) (hcolumns : columns ≠ []) :
    (∃ st, (i.build ctx feeds).result = .ok st) ↔
      ∀ source ∈ rows, ∀ c ∈ columns, ∃ v p, Source.Gives ctx.objects source c.propertyKey v ∧
        Column.stored ctx.objects (some c) v = .ok p := by
  have hcells (source : Value) : (∃ params, Source.bound ctx.objects columns source = .ok params) ↔
      ∀ c ∈ columns, ∃ v p, Source.Gives ctx.objects source c.propertyKey v ∧
        Column.stored ctx.objects (some c) v = .ok p := by
    rw [Source.bound, exists_mapM_eq_ok]
    simp only [Source.cell_eq_ok]
    exact forall₂_congr fun c _ => exists_comm
  simp only [build_result hrows hne ht hc, if_neg hcolumns, map_eq_ok, ← hcells,
    ← exists_mapM_eq_ok]
  constructor
  · rintro ⟨st, params, hparams, -⟩
    exact ⟨params, hparams⟩
  · rintro ⟨params, hparams⟩
    exact ⟨_, params, hparams, rfl⟩

/-- The text of a build that succeeds, and the values that are bound for its cells. -/
theorem build_cells (hrows : i.rows = some rows) (hne : rows ≠ [])
    (ht : ctx.registry.table ctx.objects i.entity = .ok t)
    (hc : Insert.columns ctx.objects t = .ok columns) {st : Statement}
    (h : (i.build ctx feeds).result = .ok st) :
    st.query = text t columns rows.length ∧ st.params.length = rows.length * columns.length ∧
      ∀ a b source c, rows[a]? = some source → columns[b]? = some c →
        ∃ v p, st.params[a * columns.length + b]? = some p ∧
          Source.Gives ctx.objects source c.propertyKey v ∧
          Column.stored ctx.objects (some c) v = .ok p := by
  rw [build_result hrows hne ht hc] at h
  split at h
  · cases h
  obtain ⟨params, hparams, rfl⟩ := map_eq_ok.mp h
  refine ⟨rfl, length_params hparams, fun a b source c ha hb => ?_⟩
  have hbound := mapM_eq_ok.mp hparams
  have hwidth : ∀ l ∈ params, l.length = columns.length := by
    intro l hl
    obtain ⟨_, -, hl⟩ := exists_of_mem_mapM hparams hl
    exact (mapM_eq_ok.mp hl).length_eq.symm
  obtain ⟨hlt, rfl⟩ := List.getElem?_eq_some_iff.mp ha
  obtain ⟨hlt', rfl⟩ := List.getElem?_eq_some_iff.mp hb
  have hrow : a < params.length := by rw [← hbound.length_eq]; exact hlt
  have hcells : List.Forall₂ (fun c p => Source.cell ctx.objects rows[a] c = .ok p) columns
      params[a] := mapM_eq_ok.mp (hbound.get hlt hrow)
  have hcell : b < params[a].length := by rw [← hcells.length_eq]; exact hlt'
  obtain ⟨v, hv, hp⟩ := Source.cell_eq_ok.mp (hcells.get hlt' hcell)
  refine ⟨v, params[a][b], ?_, hv, hp⟩
  rw [getElem?_flatten hwidth (List.getElem?_eq_getElem hrow) hlt']
  exact List.getElem?_eq_getElem hcell

/-- Two batches put together bind the values of the first one and then those of the second one. -/
theorem build_append {xs ys : List Value} (hxs : xs ≠ []) (hys : ys ≠ [])
    (ht : ctx.registry.table ctx.objects i.entity = .ok t)
    (hc : Insert.columns ctx.objects t = .ok columns) (params : List Value) :
    let built rows := ((⟨i.entity, some rows⟩ : Insert).build ctx feeds).result
    (∃ st, built (xs ++ ys) = .ok st ∧ st.params = params) ↔
      ∃ st st', built xs = .ok st ∧ built ys = .ok st' ∧ params = st.params ++ st'.params := by
  intro built
  have hboth : xs ++ ys ≠ [] := by simp [hxs]
  have hbuilt (rows : List Value) (hne : rows ≠ []) : built rows =
      if columns = [] then .error (.allExcluded t.name)
      else (rows.mapM (Source.bound ctx.objects columns)).map fun params =>
        ⟨text t columns rows.length, params.flatten⟩ := build_result rfl hne ht hc
  rw [hbuilt _ hboth, hbuilt _ hxs, hbuilt _ hys, List.mapM_append]
  by_cases hcolumns : columns = []
  · simp [hcolumns]
  simp only [if_neg hcolumns]
  cases xs.mapM (Source.bound ctx.objects columns) with
  | error e => simp
  | ok ps =>
    cases ys.mapM (Source.bound ctx.objects columns) with
    | error e => simp
    | ok qs => simp [pure, Except.pure, eq_comm]

/-- An INSERT binds, row by row, one value for each column that is not excluded: what is stored for
the value that the source of the row gives, where mappings always give one. It is refused by the
library itself without rows and without columns, and by nothing else; it succeeds where every cell
can be stored. A batch of two batches binds what they bind, and one of a single row is that row. -/
theorem writes_rows (ctx : Context) (i : Insert) (feeds : Feeds) :
    ((∃ e, (i.build ctx feeds).result = .error e ∧ e.family = .build) ↔
      i.rows = none ∨ i.rows = some [] ∨
        ∃ t, ctx.registry.table ctx.objects i.entity = .ok t ∧
          Insert.columns ctx.objects t = .ok []) ∧
    (∀ t columns, ctx.registry.table ctx.objects i.entity = .ok t →
      Insert.columns ctx.objects t = .ok columns →
      columns = t.columns.filter (fun c => !c.excludeFromInsert.truthy) ∧
      (∀ rows, i.rows = some rows → rows ≠ [] → columns ≠ [] →
        ((∃ st, (i.build ctx feeds).result = .ok st) ↔
          ∀ source ∈ rows, ∀ c ∈ columns, ∃ v p, Source.Gives ctx.objects source c.propertyKey v ∧
            Column.stored ctx.objects (some c) v = .ok p) ∧
        ∀ st, (i.build ctx feeds).result = .ok st →
          st.query = "INSERT INTO " ++ t.name ++ "(" ++ commaSeparated (columns.map (·.name)) ++
            ") VALUES " ++ commaSeparated (List.replicate rows.length
              ("(" ++ commaSeparated (List.replicate columns.length "?") ++ ")")) ∧
          st.params.length = rows.length * columns.length ∧
          ∀ a b source c, rows[a]? = some source → columns[b]? = some c →
            ∃ v p, st.params[a * columns.length + b]? = some p ∧
              Source.Gives ctx.objects source c.propertyKey v ∧
              Column.stored ctx.objects (some c) v = .ok p) ∧
      ∀ xs ys params, xs ≠ [] → ys ≠ [] →
        let batch sources :=
          ((do (← i.valuesMany ctx.objects (.list sources)).build ctx) feeds).result
        (∃ st, batch (xs ++ ys) = .ok st ∧ st.params = params) ↔
          ∃ st st', batch xs = .ok st ∧ batch ys = .ok st' ∧ params = st.params ++ st'.params) ∧
    (∀ source serial, i.valuesMany ctx.objects (.list [source] serial) feeds =
      ⟨.ok (i.values source), feeds, []⟩) ∧
    ∀ es serial key, ∃ v, Source.Gives ctx.objects (.dict es serial) key v := by
  refine ⟨refused_iff, fun t columns ht hc => ⟨columns_eq_filter hc, ?_, ?_⟩, fun _ _ => rfl,
    Source.exists_gives_dict ctx.objects⟩
  · intro rows hrows hne hcolumns
    exact ⟨exists_build_iff hrows hne ht hc hcolumns, fun st h => build_cells hrows hne ht hc h⟩
  · intro xs ys params hxs hys
    exact build_append hxs hys ht hc params

/-- The name of the second pet is the last of four values; nothing is bound for its key. -/
theorem writes_rows_tamePets :
    ∃ st v p, (tameInsert.build tameContext []).result = .ok st ∧
      st.query = "INSERT INTO pets(is_tame, name) VALUES (?, ?), (?, ?)" ∧
      st.params.length = 4 ∧ st.params[3]? = some p ∧
      Source.Gives noObjects (.dict [(.text "id", .int 7), (.text "name", .text "Tom")]) "name" v ∧
      Column.stored noObjects (some ⟨"name", "name", none, .bool false, .bool false⟩) v =
        .ok p := by
  obtain ⟨-, hbuild, -⟩ := writes_rows tameContext tameInsert []
  obtain ⟨-, hrows, -⟩ := hbuild tameTable tameColumns rfl rfl
  obtain ⟨hsucceeds, hcells⟩ := hrows tamePets rfl (by simp [tamePets]) (by simp [tameColumns])
  have hstored : ∀ source ∈ tamePets, ∀ c ∈ tameColumns, ∃ v p,
      Source.Gives noObjects source c.propertyKey v ∧
        Column.stored noObjects (some c) v = .ok p := by
    simp only [tamePets, tameColumns, List.forall_mem_cons, List.not_mem_nil, false_implies,
      implies_true, and_true]
    exact ⟨⟨⟨.bool true, .int 1, .entry rfl, rfl⟩, .text "Rex", _, .entry rfl, rfl⟩,
      ⟨.null, .null, .noEntry rfl, rfl⟩, .text "Tom", _, .entry rfl, rfl⟩
  obtain ⟨st, hst⟩ := hsucceeds.mpr hstored
  obtain ⟨hquery, hlength, hcell⟩ := hcells st hst
  obtain ⟨v, p, hp, hv, hs⟩ := hcell 1 1 _ _ rfl rfl
  exact ⟨st, v, p, hst, hquery.trans rfl, hlength, hp, hv, hs⟩

/-- A row that cannot be read ends the build, though no column has a transformer. -/
theorem unread_row_fails :
    let ctx := { petContext with objects := (World.oddWorld ["__getattribute__"]).view }
    let i := (Insert.of (.cls (.plain "Pet"))).values (World.oddObject ["__getattribute__"])
    ctx.registry.table ctx.objects i.entity = .ok petTable ∧
      (∃ columns, Insert.columns ctx.objects petTable = .ok columns ∧ columns ≠ []) ∧
      (∀ c ∈ petTable.columns, c.transformer = none) ∧
      (i.build ctx []).result = .error (.fault (.notCallable "int")) :=
  ⟨rfl, ⟨_, rfl, nofun⟩, by decide, rfl⟩

end Insert

end RecordSql
