import RecordSql.Proofs.Mapping.Extraction
import RecordSql.Proofs.Statement.Projection

/-! Stored rows: what an INSERT binds for a row is loaded by the mapper of the same table as the
values of the properties that the row was made from. -/

namespace RecordSql

open RecordSql.Action

namespace Column

/-- What a value comes back as, once it has been stored and loaded again. -/
inductive Returns (objects : Objects) (c : Column) : Value → Value → Prop
  | plain {v : Value} (h : c.transformer = none) : Returns objects c v v
  | null {t : Transformer} {w : Value} (h : c.transformer = some t)
      (hl : t.load objects .null = .ok w) : Returns objects c .null w
  | converted {t : Transformer} {v p w : Value} (h : c.transformer = some t) (hv : v ≠ .null)
      (hs : t.store objects v = .ok p) (hl : t.load objects p = .ok w) : Returns objects c v w

/-- The transformer of a column, if it has one, gives back a value that it has stored, and null for
null. -/
def Restores (objects : Objects) (c : Column) (v : Value) : Prop :=
  ∀ t, c.transformer = some t → t.load objects .null = .ok .null ∧
    (v ≠ .null → ∀ p, t.store objects v = .ok p → t.load objects p = .ok v)

variable {objects : Objects} {c : Column} {v p w : Value}

theorem toStored_null : c.toStored objects .null = .ok .null := rfl

theorem toStored_of_ne (hv : v ≠ .null) :
    c.toStored objects v = c.transformer.elim (.ok v) fun t => t.store objects v := by
  cases c with
  | mk key name transformer insert update =>
    cases v with
    | null => exact absurd rfl hv
    | _ => cases transformer <;> rfl

theorem loaded_eq_ok : c.loaded objects p = .ok w ↔
    c.transformer.elim (.ok p) (fun t => t.load objects p) = .ok w := by
  rw [loaded]
  cases c.transformer with
  | none => simp
  | some t => exact mapError_eq_ok

theorem returns_of_loaded (hs : stored objects (some c) v = .ok p)
    (hl : c.loaded objects p = .ok w) : c.Returns objects v w := by
  have hs := mapError_eq_ok.mp hs
  rw [loaded_eq_ok] at hl
  by_cases hv : v = .null
  · subst hv
    rw [toStored_null] at hs
    cases hs
    cases ht : c.transformer with
    | none =>
      rw [ht] at hl
      cases hl
      exact .plain ht
    | some t =>
      rw [ht] at hl
      exact .null ht hl
  · rw [toStored_of_ne hv] at hs
    cases ht : c.transformer with
    | none =>
      rw [ht] at hs hl
      cases hs
      cases hl
      exact .plain ht
    | some t =>
      rw [ht] at hs hl
      exact .converted ht hv hs hl

theorem loaded_of_restores (hr : c.Restores objects v) (hs : stored objects (some c) v = .ok p) :
    c.loaded objects p = .ok v := by
  have hs := mapError_eq_ok.mp hs
  rw [loaded_eq_ok]
  by_cases hv : v = .null
  · subst hv
    rw [toStored_null] at hs
    cases hs
    cases ht : c.transformer with
    | none => rfl
    | some t => exact (hr t ht).1
  · rw [toStored_of_ne hv] at hs
    cases ht : c.transformer with
    | none =>
      rw [ht] at hs
      cases hs
      rfl
    | some t =>
      rw [ht] at hs
      exact (hr t ht).2 hv p hs

end Column

/-- Some of the items of a list, each with what a partial function tells of it. -/
theorem filterMap_eq_zip {α β : Type} {f : α → Option β} {sub l : List α} {bs : List β}
    (hsub : sub.Sublist l) (hl : l.Nodup) (hpresent : List.Forall₂ (fun a b => f a = some b) sub bs)
    (habsent : ∀ a ∈ l, a ∉ sub → f a = none) :
    (l.filterMap fun a => (f a).map (a, ·)) = sub.zip bs := by
  induction hsub generalizing bs with
  | slnil =>
    cases hpresent
    rfl
  | @cons sub l a hsub ih =>
    obtain ⟨ha, hl⟩ := List.nodup_cons.mp hl
    have hnone := habsent a List.mem_cons_self fun h => ha (hsub.subset h)
    rw [List.filterMap_cons, hnone]
    exact ih hl hpresent fun b hb => habsent b (List.mem_cons_of_mem a hb)
  | @cons_cons sub l a hsub ih =>
    obtain ⟨ha, hl⟩ := List.nodup_cons.mp hl
    cases hpresent with
    | @cons _ b _ bs hab hpresent =>
      rw [List.filterMap_cons, hab, List.zip_cons_cons, Option.map_some]
      refine congrArg _ (ih hl hpresent fun b hb hnot => ?_)
      refine habsent b (List.mem_cons_of_mem a hb) fun hmem => ?_
      rcases List.mem_cons.mp hmem with rfl | hmem
      · exact ha hb
      · exact hnot hmem

/-- Lists of one length are found again in what they are joined to. -/
theorem take_drop_flatten {α : Type} {ls : List (List α)} {n : Nat} (hn : ∀ l ∈ ls, l.length = n)
    {k : Nat} {l : List α} (hk : ls[k]? = some l) : (ls.flatten.drop (k * n)).take n = l := by
  induction ls generalizing k with
  | nil => cases hk
  | cons head ls ih =>
    have hhead : head.length = n := hn head List.mem_cons_self
    cases k with
    | zero =>
      cases hk
      rw [Nat.zero_mul, List.drop_zero, List.flatten_cons, ← hhead, List.take_left]
    | succ k =>
      rw [List.flatten_cons, Nat.succ_mul, Nat.add_comm, ← List.drop_drop, ← hhead, List.drop_left,
        hhead]
      exact ih (fun l hl => hn l (List.mem_cons_of_mem head hl)) hk

/-- A cell of lists of one length is found again in what they are joined to. -/
theorem getElem?_flatten {α : Type} {ls : List (List α)} {n : Nat} (hn : ∀ l ∈ ls, l.length = n)
    {k j : Nat} {l : List α} (hk : ls[k]? = some l) (hj : j < n) :
    ls.flatten[k * n + j]? = l[j]? := by
  have htake := take_drop_flatten hn hk
  rw [← htake, List.getElem?_take, if_pos hj, List.getElem?_drop]

namespace Mapper

/-- Cells each of which can be loaded. -/
theorem loadAll_zip {objects : Objects} {r : Column → Value → Prop} {columns : List Column}
    {params : List Value}
    (h : List.Forall₂ (fun c p => ∃ w, c.loaded objects p = .ok w ∧ r c w) columns params) :
    ∃ values, loadAll objects (columns.zip params) = .ok values ∧
      List.Forall₂ (fun c e => e.1 = c.propertyKey ∧ r c e.2) columns values := by
  induction h with
  | nil => exact ⟨[], rfl, .nil⟩
  | @cons c p columns params hc _ ih =>
    obtain ⟨w, hw, hr⟩ := hc
    obtain ⟨values, hvalues, hrest⟩ := ih
    refine ⟨(c.propertyKey, w) :: values, ?_, .cons ⟨rfl, hr⟩ hrest⟩
    exact mapM_eq_ok.mpr (.cons (loadCell_eq_ok.mpr ⟨rfl, hw⟩) (mapM_eq_ok.mp hvalues))

end Mapper

namespace Insert

/-- The values that are bound for a row of so many columns. -/
def group (st : Statement) (width k : Nat) : List Value := (st.params.drop (k * width)).take width

/-- A row with a value for each of some columns, under the default keys of their table. -/
def row (t : Table) (separator : String) (columns : List Column) (params : List Value) :
    List (Value × Value) :=
  Value.entries ((columns.map fun c => t.name ++ separator ++ c.name).zip params)

/-- The columns of a row are those that it was made from. -/
theorem cells_row {t : Table} (ht : t.Sound) {separator : String} {columns : List Column}
    (hsub : columns.Sublist t.columns) {params : List Value}
    (hlength : columns.length = params.length) :
    Mapper.cells t (t.name ++ separator) (row t separator columns params) = columns.zip params := by
  have hnames := ht.columns.names
  have hkeys : (columns.map fun c => t.name ++ separator ++ c.name).Nodup := by
    have hmap := (hnames.sublist (hsub.map _)).map fun _ _ heq =>
      (String.append_right_inj (t.name ++ separator)).mp heq
    rwa [List.map_map] at hmap
  have hfirst : ((columns.map fun c => t.name ++ separator ++ c.name).zip params).map (·.1) =
      columns.map fun c => t.name ++ separator ++ c.name :=
    List.map_fst_zip (by rw [List.length_map]; exact Nat.le_of_eq hlength)
  refine filterMap_eq_zip hsub hnames.of_map ?_ ?_
  · refine List.forall₂_iff_zip.mpr ⟨hlength, fun {c p} hc => ?_⟩
    refine Value.lookup?_entries (hfirst.symm ▸ hkeys) ?_
    rw [List.zip_map_left]
    exact List.mem_map.mpr ⟨(c, p), hc, rfl⟩
  · intro c hc hnot
    refine Value.lookup?_entries_eq_none fun hmem => hnot ?_
    rw [hfirst] at hmem
    obtain ⟨c', hc', heq⟩ := List.mem_map.mp hmem
    have hname : c'.name = c.name := (String.append_right_inj _).mp heq
    exact List.inj_on_of_nodup_map hnames (hsub.subset hc') hc hname ▸ hc'

variable {ctx : Context} {i : Insert} {feeds : Feeds} {st : Statement}

/-- What is bound for a row is loaded again by the mapper of the table, under the default keys, as
the values of its source: each value as its transformer returns it, if no transformer fails, and as
it is where the transformers restore what they store. Columns that are not inserted are not read. -/
theorem rows_return {calls : List Call} (hr : ctx.registry = Registry.after ∅ calls)
    (h : (i.build ctx feeds).result = .ok st) (config : Config) :
    ∃ t columns rows, ctx.registry.table ctx.objects i.entity = .ok t ∧
      Insert.columns ctx.objects t = .ok columns ∧ (columns.map (·.propertyKey)).Nodup ∧
      i.rows = some rows ∧ rows ≠ [] ∧ st.params.length = rows.length * columns.length ∧
      ∀ k source, rows[k]? = some source → ∀ serial feeds',
        let params := group st columns.length k
        let extracted := ((Mapper.mk i.entity .null config).extract ctx.registry ctx.objects
          (.dict (row t config.separator columns params) serial) feeds').result
        ((∀ e ∈ columns.zip params, ∃ w, e.1.loaded ctx.objects e.2 = .ok w) →
          ∃ values, extracted = .ok values ∧ List.Forall₂ (fun c e => e.1 = c.propertyKey ∧
            ∃ v, Source.read ctx.objects source c.propertyKey = .ok v ∧
              c.Returns ctx.objects v e.2) columns values) ∧
        ((∀ c ∈ columns, ∀ v, Source.read ctx.objects source c.propertyKey = .ok v →
            c.Restores ctx.objects v) →
          ∃ values, extracted = .ok values ∧ List.Forall₂ (fun c e => e.1 = c.propertyKey ∧
            Source.read ctx.objects source c.propertyKey = .ok e.2) columns values) := by
  obtain ⟨p, hb⟩ := exists_built h
  have hsound : p.table.Sound := (hr ▸ Registry.Sound.empty.after calls : ctx.registry.Sound).table
    hb.table
  have hsub : p.columns.Sublist p.table.columns :=
    columns_eq_filter hb.columns ▸ List.filter_sublist
  rw [hb.run] at h
  cases h
  refine ⟨p.table, p.columns, p.rows, hb.table, hb.columns,
    hsound.columns.keys.sublist (hsub.map _), hb.rows, ?_, length_params hb.params, ?_⟩
  · intro hnil
    have hrun := hb.run
    rw [build, hb.rows, hnil] at hrun
    cases hrun
  intro k source hk serial feeds'
  obtain ⟨hlt, rfl⟩ := List.getElem?_eq_some_iff.mp hk
  have hrows := mapM_eq_ok.mp hb.params
  have hlt' : k < p.params.length := hrows.length_eq ▸ hlt
  have hcells : List.Forall₂ (fun c v => Source.cell ctx.objects p.rows[k] c = .ok v) p.columns
      p.params[k] := mapM_eq_ok.mp (hrows.get hlt hlt')
  have hwidth : ∀ l ∈ p.params, l.length = p.columns.length := fun l hl => by
    obtain ⟨source, -, hsource⟩ := exists_of_mem_mapM hb.params hl
    exact (mapM_eq_ok.mp hsource).length_eq.symm
  have hgroup : group ⟨text p.table p.columns p.rows.length, p.params.flatten⟩ p.columns.length k =
      p.params[k] := take_drop_flatten hwidth (List.getElem?_eq_getElem hlt')
  have hextract := Mapper.extract_dict hb.table (Mapper.leadFor_null i.entity config p.table)
    (row p.table config.separator p.columns p.params[k]) serial feeds'
  rw [cells_row hsound hsub hcells.length_eq] at hextract
  dsimp only
  rw [hgroup, hextract]
  constructor
  · intro hloaded
    refine Mapper.loadAll_zip (r := fun c w => ∃ v,
      Source.read ctx.objects p.rows[k] c.propertyKey = .ok v ∧ c.Returns ctx.objects v w) ?_
    refine List.forall₂_iff_zip.mpr ⟨hcells.length_eq, fun {c q} hmem => ?_⟩
    obtain ⟨v, hread, hs⟩ := bind_eq_ok.mp ((List.forall₂_iff_zip.mp hcells).2 hmem)
    obtain ⟨w, hw⟩ := hloaded (c, q) hmem
    exact ⟨w, hw, v, mapError_eq_ok.mp hread, Column.returns_of_loaded hs hw⟩
  · intro hrestores
    refine Mapper.loadAll_zip (r := fun c w =>
      Source.read ctx.objects p.rows[k] c.propertyKey = .ok w) ?_
    refine List.forall₂_iff_zip.mpr ⟨hcells.length_eq, fun {c q} hmem => ?_⟩
    obtain ⟨v, hread, hs⟩ := bind_eq_ok.mp ((List.forall₂_iff_zip.mp hcells).2 hmem)
    have hv := mapError_eq_ok.mp hread
    exact ⟨v, Column.loaded_of_restores (hrestores c (List.of_mem_zip hmem).1 v hv) hs, hv⟩

end Insert

/-! ### Tame pets -/

/-- Truth values, stored as zero and one. -/
def flag : Transformer :=
  ⟨"flag", fun _ v => match v with | .bool b => .ok (.int (if b then 1 else 0)) | v => .ok v,
    fun _ v => match v with | .int n => .ok (.bool (n ≠ 0)) | v => .ok v⟩

/-- Pets with a number that the database chooses. -/
def tameCalls : List Call :=
  let pet (request : Request) : Call := .register ⟨noObjects, .cls (.plain "Pet"), request⟩
  [pet (.column ⟨.text "tame", .text "is_tame", some flag, .bool false, .bool false⟩),
    pet (.column ⟨.text "id", .text "id", none, .bool true, .bool false⟩),
    pet (.column ⟨.text "name", .text "name", none, .bool false, .bool false⟩),
    pet (.table (.text "pets"))]

def tameColumns : List Column :=
  [⟨"tame", "is_tame", some flag, .bool false, .bool false⟩,
    ⟨"name", "name", none, .bool false, .bool false⟩]

def tameTable : Table := ⟨.cls (.plain "Pet"), "pets",
  [⟨"tame", "is_tame", some flag, .bool false, .bool false⟩,
    ⟨"id", "id", none, .bool true, .bool false⟩,
    ⟨"name", "name", none, .bool false, .bool false⟩], []⟩

def tameContext : Context :=
  ⟨Registry.after ∅ tameCalls, Operators.builtin, noObjects, fun _ => none⟩

/-- Two pets; of the second one it is not known whether it is tame. -/
def tamePets : List Value :=
  [.dict [(.text "name", .text "Rex"), (.text "tame", .bool true)] 0,
    .dict [(.text "id", .int 7), (.text "name", .text "Tom")] 0]

def tameInsert : Insert := ⟨.cls (.plain "Pet"), some tamePets⟩

/-- The truth values of the pets are given back, and so is that nothing is known. -/
theorem restores_tamePets : ∀ pet ∈ tamePets, ∀ c ∈ tameColumns, ∀ v,
    Source.read noObjects pet c.propertyKey = .ok v → c.Restores noObjects v := by
  intro pet hpet c hc v hread t ht
  simp only [tamePets, tameColumns, List.mem_cons, List.not_mem_nil, or_false] at hpet hc
  rcases hc with rfl | rfl
  · cases ht
    refine ⟨rfl, fun hv stored hs => ?_⟩
    rcases hpet with rfl | rfl <;> cases hread
    · cases hs
      rfl
    · exact absurd rfl hv
  · cases ht

/-- What is read back of a pet. -/
theorem values_of_tameColumns {pet tame name : Value} {values : List (String × Value)}
    (htame : Source.read noObjects pet "tame" = .ok tame)
    (hname : Source.read noObjects pet "name" = .ok name)
    (h : List.Forall₂ (fun c e => e.1 = c.propertyKey ∧
      Source.read noObjects pet c.propertyKey = .ok e.2) tameColumns values) :
    values = [("tame", tame), ("name", name)] := by
  obtain _ | @⟨_, ⟨key, v⟩, _, _, ⟨hkey, hv⟩, h⟩ := h
  obtain _ | @⟨_, ⟨key', v'⟩, _, _, ⟨hkey', hv'⟩, h⟩ := h
  cases h
  cases hkey
  cases hkey'
  cases htame.symm.trans hv
  cases hname.symm.trans hv'
  rfl

/-- What is known of the pets is read back from what is bound for them. -/
theorem Insert.rows_return_tame :
    let row (is_tame name : Value) : Value :=
      .dict [(.text "pets_is_tame", is_tame), (.text "pets_name", name)] 0
    let read (row : Value) := ((Mapper.mk (.cls (.plain "Pet")) .null .usual).extract
      tameContext.registry noObjects row []).result
    (tameInsert.build tameContext []).result =
      .ok ⟨"INSERT INTO pets(is_tame, name) VALUES (?, ?), (?, ?)",
        [.int 1, .text "Rex", .null, .text "Tom"]⟩ ∧
      read (row (.int 1) (.text "Rex")) = .ok [("tame", .bool true), ("name", .text "Rex")] ∧
      read (row .null (.text "Tom")) = .ok [("tame", .null), ("name", .text "Tom")] := by
  intro row read
  have hbuild : (tameInsert.build tameContext []).result =
      .ok ⟨"INSERT INTO pets(is_tame, name) VALUES (?, ?), (?, ?)",
        [.int 1, .text "Rex", .null, .text "Tom"]⟩ := rfl
  have hcalls : tameContext.registry = Registry.after ∅ tameCalls := rfl
  obtain ⟨t, columns, rows, ht, hcolumns, -, hrows, -, -, hread⟩ :=
    Insert.rows_return hcalls hbuild .usual
  cases (rfl : tameContext.registry.table noObjects _ = .ok tameTable).symm.trans ht
  cases (rfl : Insert.columns noObjects tameTable = .ok tameColumns).symm.trans hcolumns
  cases hrows
  have hread (k : Nat) (pet : Value) (hpet : tamePets[k]? = some pet) :=
    (hread k pet hpet 0 []).2 (restores_tamePets pet (List.mem_of_getElem? hpet))
  refine ⟨hbuild, ?_, ?_⟩
  · obtain ⟨values, hvalues, h⟩ := hread 0 _ rfl
    exact values_of_tameColumns rfl rfl h ▸ hvalues
  · obtain ⟨values, hvalues, h⟩ := hread 1 _ rfl
    exact values_of_tameColumns rfl rfl h ▸ hvalues

end RecordSql
