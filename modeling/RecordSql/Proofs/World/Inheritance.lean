import RecordSql.Proofs.Assoc
import RecordSql.Proofs.World.Growth

/-! Inherited markers: what a declaration registers of a class and its ancestors. Each name is
registered once. Its place is where it first stands from the most remote ancestor on, its marker
that of the most derived class; the two may come from different classes. -/

namespace RecordSql

open RecordSql.Action

/-! ### The markers of a class -/

namespace Member

def isColumn : Member → Bool
  | column _ => true
  | _ => false

def isRelation : Member → Bool
  | relation _ => true
  | _ => false

end Member

namespace World

/-- The marker that a body binds a name to. -/
def markerIn? (members : Assoc String Member) (name : String) : Option Member :=
  Assoc.get? (markersOf members).reverse name

/-- The marker of a name: that of the most derived class with one, a class before its ancestors. -/
def chosen? (w : World) (c : Nat) (name : String) : Option Member :=
  (w.ancestors c).findSome? fun a => markerIn? (w.cls a).members name

/-- The names of markers, each where it stands first, from the most remote ancestor on and in the
order of each body. -/
def markedNames (w : World) (c : Nat) : List String :=
  (Assoc.keys ((w.ancestors c).reverse.flatMap fun a => markersOf (w.cls a).members)).eraseDups

theorem keys_markers (w : World) (c : Nat) : Assoc.keys (w.markers c) = w.markedNames c :=
  Assoc.keys_foldl_put _

theorem get?_markers (w : World) (c : Nat) (name : String) :
    Assoc.get? (w.markers c) name = w.chosen? c name := by
  rw [markers, Assoc.get?_foldl_put, List.reverse_flatMap, List.reverse_reverse,
    Assoc.get?_flatMap]
  exact Option.or_none

theorem nodup_keys_markers (w : World) (c : Nat) : (Assoc.keys (w.markers c)).Nodup :=
  Assoc.nodup_keys_foldl_put (m := []) List.nodup_nil _

theorem chosen?_of_mem {w : World} {c : Nat} {e : String × Member} (he : e ∈ w.markers c) :
    w.chosen? c e.1 = some e.2 := by
  rw [← get?_markers]
  exact Assoc.get?_of_mem (w.nodup_keys_markers c) he

/-- The names with a marker are those that a class in the order of ancestors binds to one. -/
theorem mem_markedNames {w : World} {c : Nat} {name : String} :
    name ∈ w.markedNames c ↔
      ∃ a ∈ w.ancestors c, (markerIn? (w.cls a).members name).isSome := by
  rw [← keys_markers, ← Assoc.isSome_get?_iff, get?_markers, chosen?, List.findSome?_isSome_iff]

/-- Only markers are chosen. -/
theorem isMarker_of_chosen? {w : World} {c : Nat} {name : String} {m : Member}
    (h : w.chosen? c name = some m) : m.isMarker = true := by
  obtain ⟨a, -, ha⟩ := List.exists_of_findSome?_eq_some h
  have hmem := Assoc.mem_of_get? ha
  rw [List.mem_reverse, markersOf, List.mem_filter] at hmem
  exact hmem.2

end World

/-! ### Registrations that all end well -/

namespace Registration

theorem forM_run_of_ok {l : List Registration} {r : Registry}
    (h : (l.forM run r).result = .ok ()) :
    (l.forM run r).state = r.after (l.map .register) ∧
      ∀ event ∈ r.history (l.map .register), event.result = .ok () := by
  induction l generalizing r with
  | nil => exact ⟨rfl, fun _ he => absurd he List.not_mem_nil⟩
  | cons x l ih =>
    have hcons : (x :: l).forM run = x.run >>= fun _ => l.forM run := rfl
    rw [hcons] at h ⊢
    obtain ⟨⟨⟩, hx, hl⟩ := bind_result_eq_ok.mp h
    obtain ⟨hstate, hevents⟩ := ih hl
    constructor
    · rw [bind_state hx, hstate]
      rfl
    · intro event he
      rw [List.map_cons, Registry.history, Call.run] at he
      rcases List.mem_cons.mp he with rfl | he
      · exact hx
      · exact hevents event he

/-- Of registrations of one new entity that all end well, each passed its check, if no table was
named before it. -/
theorem check_of_history {objects : Objects} {entity : Value} {k : Key} {r : Registry}
    {l made rest : List Registration} {x : Registration} (hk : entity.key objects = .ok k)
    (hl : ∀ y ∈ l, y.IsOf objects entity) (hr : r.entry objects k = {})
    (hok : ∀ event ∈ r.history (l.map .register), event.result = .ok ())
    (hsplit : l = made ++ x :: rest) (hmade : ∀ y ∈ made, y.isTable = false) :
    ∃ e a, x.check e = .ok a := by
  subst hsplit
  rw [List.map_append, Registry.history_append, List.map_cons] at hok
  obtain ⟨hobjects, hentity⟩ := hl x (by simp)
  have htold := Registry.entry_after_toldBy hk
    (fun y hy => hl y (List.mem_append_left _ hy)) hr
    fun event he => hok event (List.mem_append_left _ he)
  have hany : made.any (·.isTable) = false :=
    List.any_eq_false.mpr fun y hy => by rw [hmade y hy]; exact Bool.false_ne_true
  have htable := htold.table?_eq_none.mpr hany
  have hx : (x.run (r.after (made.map .register))).result = .ok () :=
    hok _ (List.mem_append_right _ List.mem_cons_self)
  subst hobjects hentity
  rw [result_run hk] at hx
  rcases of_result_eq_ok hx with hsome | ⟨a, ha⟩
  · rw [htable] at hsome
    cases hsome
  · exact ⟨_, a, ha⟩

end Registration

/-! ### The table of a declaration -/

namespace World

/-- What a table says of a class: under each marked name, in their order, what its marker says. -/
structure Tabulates (w : World) (c : Nat) (t : Table) : Prop where
  columnKeys : t.propertyKeys =
    (w.markedNames c).filter fun name => (w.chosen? c name).any Member.isColumn
  relationKeys : t.relations.map (·.propertyKey) =
    (w.markedNames c).filter fun name => (w.chosen? c name).any Member.isRelation
  columns : ∀ column ∈ t.columns, w.chosen? c column.propertyKey = some (.column
    ⟨.text column.name, column.transformer, column.excludeFromInsert, column.excludeFromUpdate⟩)
  relations : ∀ relation ∈ t.relations, ∃ target,
    w.chosen? c relation.propertyKey = some (.relation ⟨relation.kind,
      .text relation.selfReference, .text relation.targetTable, .text relation.targetColumn,
      target⟩) ∧ target.check w.view = .ok relation.target

theorem count_filter_of_nodup {l : List String} (hl : l.Nodup) {name : String} (hname : name ∈ l)
    (p : String → Bool) : (l.filter p).count name = if p name then 1 else 0 := by
  by_cases hp : p name = true
  · rw [List.count_filter hp, if_pos hp]
    exact List.count_eq_one_of_mem hl hname
  · rw [if_neg hp, List.count_eq_zero, List.mem_filter]
    exact fun hmem => hp hmem.2

/-- Each marked name is the key of exactly one column or relation. -/
theorem Tabulates.count_eq_one {w : World} {c : Nat} {t : Table} (h : w.Tabulates c t)
    {name : String} (hname : name ∈ w.markedNames c) :
    (t.propertyKeys ++ t.relations.map (·.propertyKey)).count name = 1 := by
  have hnodup : (w.markedNames c).Nodup := w.keys_markers c ▸ w.nodup_keys_markers c
  obtain ⟨m, hm⟩ : ∃ m, w.chosen? c name = some m := by
    rw [← keys_markers, ← Assoc.isSome_get?_iff, get?_markers] at hname
    exact Option.isSome_iff_exists.mp hname
  have hmarker : m.isMarker = true := isMarker_of_chosen? hm
  rw [List.count_append, h.columnKeys, h.relationKeys, count_filter_of_nodup hnodup hname,
    count_filter_of_nodup hnodup hname, hm]
  cases m with
  | column m => rfl
  | relation m => rfl
  | _ => cases hmarker

/-! What a declaration asks for, marker by marker. -/

section

variable {objects : Objects} {entity : Value}

/-- The columns among the registrations of some markers. -/
def columnsOf (objects : Objects) (entity : Value) (found : List (String × Member)) :
    List Column :=
  ((found.filterMap fun e => e.2.request? e.1).map (⟨objects, entity, ·⟩)).filterMap
    Registration.column?

/-- The relations among the registrations of some markers. -/
def relationsOf (objects : Objects) (entity : Value) (found : List (String × Member)) :
    List Relation :=
  ((found.filterMap fun e => e.2.request? e.1).map (⟨objects, entity, ·⟩)).filterMap
    Registration.relation?

/-- A marker that passes the check of its registration. -/
def Passes (objects : Objects) (entity : Value) (e : String × Member) : Prop :=
  ∀ request, e.2.request? e.1 = some request →
    ∃ entry a, Registration.check ⟨objects, entity, request⟩ entry = .ok a

/-- A column marker that passes gives the column that it says. -/
theorem Passes.column {name : String} {m : ColumnMarker}
    (h : Passes objects entity (name, .column m)) :
    ∃ column : Column, Registration.column? ⟨objects, entity, .column (m.given name)⟩ =
        some column ∧ column.propertyKey = name ∧
      m = ⟨.text column.name, column.transformer, column.excludeFromInsert,
        column.excludeFromUpdate⟩ := by
  obtain ⟨entry, a, ha⟩ := h _ rfl
  obtain ⟨column, hcolumn, -⟩ := map_eq_ok.mp ha
  obtain ⟨hgiven, -⟩ := Registration.of_checkColumn hcolumn
  obtain ⟨givenName, transformer, fromInsert, fromUpdate⟩ := m
  simp only [ColumnMarker.given, ColumnGiven.mk.injEq, Value.text.injEq] at hgiven
  obtain ⟨rfl, rfl, rfl, rfl, rfl⟩ := hgiven
  exact ⟨column, rfl, rfl, rfl⟩

/-- A relation marker that passes gives the relation that it says. -/
theorem Passes.relation {name : String} {m : RelationMarker}
    (h : Passes objects entity (name, .relation m)) :
    ∃ relation : Relation, Registration.relation? ⟨objects, entity, .relation (m.given name)⟩ =
        some relation ∧ relation.propertyKey = name ∧
      ∃ target, m = ⟨relation.kind, .text relation.selfReference, .text relation.targetTable,
        .text relation.targetColumn, target⟩ ∧ target.check objects = .ok relation.target := by
  obtain ⟨entry, a, ha⟩ := h _ rfl
  obtain ⟨relation, hrelation, -⟩ := map_eq_ok.mp ha
  have hfound := Registration.relation?_of_check hrelation
  obtain ⟨hkind, htarget, -, ⟨hkey, -⟩, ⟨hself, -⟩, ⟨htable, -⟩, hcolumn, -⟩ :=
    Registration.of_checkRelation hrelation
  obtain ⟨kind, selfReference, targetTable, targetColumn, target⟩ := m
  simp only [RelationMarker.given, Value.text.injEq] at hkind htarget hkey hself htable hcolumn
  rw [RelationKind.ofValue?_label] at hkind
  cases hkind
  exact ⟨relation, hfound, hkey.symm, target, by rw [hself, htable, hcolumn], htarget⟩

variable {found : List (String × Member)}

/-- What some of the items of a list give has their names, if the others give nothing. -/
theorem keys_filterMap {α β : Type} {give : α → Option β} {gives : α → Bool} {name : α → String}
    {key : β → String} {l : List α}
    (h : ∀ a ∈ l, if gives a then ∃ b, give a = some b ∧ key b = name a else give a = none) :
    (l.filterMap give).map key = (l.filter gives).map name := by
  induction l with
  | nil => rfl
  | cons a l ih =>
    obtain ⟨ha, hl⟩ := List.forall_mem_cons.mp h
    split at ha
    · rename_i hgives
      obtain ⟨b, hb, hkey⟩ := ha
      rw [List.filterMap_cons_some hb, List.filter_cons_of_pos hgives, List.map_cons,
        List.map_cons, hkey, ih hl]
    · rename_i hgives
      rw [List.filterMap_cons_none ha, List.filter_cons_of_neg hgives, ih hl]

theorem keys_columnsOf (h : ∀ e ∈ found, Passes objects entity e) :
    (columnsOf objects entity found).map (·.propertyKey) =
      (found.filter fun e => e.2.isColumn).map (·.1) := by
  rw [columnsOf, List.filterMap_map, List.filterMap_filterMap]
  apply keys_filterMap
  rintro ⟨name, m⟩ he
  cases m with
  | column m =>
    obtain ⟨column, hcolumn, hkey, -⟩ := (h _ he).column
    exact ⟨column, hcolumn, hkey⟩
  | _ => rfl

theorem keys_relationsOf (h : ∀ e ∈ found, Passes objects entity e) :
    (relationsOf objects entity found).map (·.propertyKey) =
      (found.filter fun e => e.2.isRelation).map (·.1) := by
  rw [relationsOf, List.filterMap_map, List.filterMap_filterMap]
  apply keys_filterMap
  rintro ⟨name, m⟩ he
  cases m with
  | relation m =>
    obtain ⟨relation, hrelation, hkey, -⟩ := (h _ he).relation
    exact ⟨relation, hrelation, hkey⟩
  | _ => rfl

theorem mem_of_mem_columnsOf (h : ∀ e ∈ found, Passes objects entity e) {column : Column}
    (hc : column ∈ columnsOf objects entity found) :
    (column.propertyKey, .column ⟨.text column.name, column.transformer, column.excludeFromInsert,
      column.excludeFromUpdate⟩) ∈ found := by
  obtain ⟨x, hx, hcolumn⟩ := List.mem_filterMap.mp hc
  obtain ⟨request, hrequest, rfl⟩ := List.mem_map.mp hx
  obtain ⟨⟨name, m⟩, he, hm⟩ := List.mem_filterMap.mp hrequest
  cases m with
  | column m =>
    cases hm
    obtain ⟨column', hcolumn', rfl, rfl⟩ := (h _ he).column
    cases hcolumn.symm.trans hcolumn'
    exact he
  | relation m =>
    cases hm
    cases hcolumn
  | _ => cases hm

theorem mem_of_mem_relationsOf (h : ∀ e ∈ found, Passes objects entity e) {relation : Relation}
    (hr : relation ∈ relationsOf objects entity found) :
    ∃ target, (relation.propertyKey, .relation ⟨relation.kind, .text relation.selfReference,
        .text relation.targetTable, .text relation.targetColumn, target⟩) ∈ found ∧
      target.check objects = .ok relation.target := by
  obtain ⟨x, hx, hrelation⟩ := List.mem_filterMap.mp hr
  obtain ⟨request, hrequest, rfl⟩ := List.mem_map.mp hx
  obtain ⟨⟨name, m⟩, he, hm⟩ := List.mem_filterMap.mp hrequest
  cases m with
  | column m =>
    cases hm
    cases hrelation
  | relation m =>
    cases hm
    obtain ⟨relation', hrelation', rfl, target, rfl, htarget⟩ := (h _ he).relation
    cases hrelation.symm.trans hrelation'
    exact ⟨target, he, htarget⟩
  | _ => cases hm

/-- The names of some of the entries under different names. -/
theorem keys_filter {m : Assoc String Member} (hm : (Assoc.keys m).Nodup) (p : Member → Bool) :
    (m.filter fun e => p e.2).map (·.1) =
      (Assoc.keys m).filter fun name => (Assoc.get? m name).any p := by
  rw [Assoc.keys, List.filter_map]
  refine congrArg (List.map _) (List.filter_congr fun e he => ?_)
  rw [Function.comp_apply, Assoc.get?_of_mem hm he]
  rfl

end

/-- Columns and relations that all markers of a class give make a table of what they say. -/
theorem tabulates_of_passes {w : World} {c : Nat} {entity : Value}
    (h : ∀ e ∈ w.markers c, Passes w.view entity e) (name : String) :
    w.Tabulates c ⟨entity, name, columnsOf w.view entity (w.markers c),
      relationsOf w.view entity (w.markers c)⟩ where
  columnKeys := by
    show (columnsOf w.view entity (w.markers c)).map (·.propertyKey) = _
    rw [keys_columnsOf h, keys_filter (w.nodup_keys_markers c), keys_markers]
    simp only [get?_markers]
  relationKeys := by
    rw [keys_relationsOf h, keys_filter (w.nodup_keys_markers c), keys_markers]
    simp only [get?_markers]
  columns column hc := chosen?_of_mem (mem_of_mem_columnsOf h hc)
  relations relation hr := by
    obtain ⟨target, hmem, htarget⟩ := mem_of_mem_relationsOf h hr
    exact ⟨target, chosen?_of_mem hmem, htarget⟩

/-! ### Registries after a declaration -/

section

variable {w : World} {c r : Nat} {name : Value}

/-- A declaration ends as its registrations do. -/
theorem result_declareTable (w : World) (c r : Nat) (name : Value) :
    (declareTable c name r w).result =
      ((w.declaration c name).forM Registration.run (w.registry r)).result := by
  rw [declareTable_run]
  rcases (w.declaration c name).forM Registration.run (w.registry r) with ⟨_ | _, s, log⟩
  · rfl
  · rfl

theorem registry_declareTable (hr : r < w.registries.length) :
    (declareTable c name r w).state.registry r =
      ((w.declaration c name).forM Registration.run (w.registry r)).state := by
  rw [declareTable_run]
  rcases (w.declaration c name).forM Registration.run (w.registry r) with ⟨_ | _, s, log⟩
  · exact registry_set hr s
  · exact registry_set hr s

theorem registry_declareTable_of_ne {s : Nat} (hs : s ≠ r) :
    (declareTable c name r w).state.registry s = w.registry s := by
  rw [declareTable_run]
  rcases (w.declaration c name).forM Registration.run (w.registry r) with ⟨_ | _, t, log⟩
  · exact registry_set_of_ne hs t
  · exact registry_set_of_ne hs t

/-- A declaration that fails leaves the classes as they are; one that ends well leaves the registry
in its class. -/
theorem classes_declareTable (w : World) (c r : Nat) (name : Value) :
    (declareTable c name r w).state.classes = w.classes ∨
      (declareTable c name r w).state.classes = (w.keeping c r).classes := by
  rw [declareTable_run]
  rcases (w.declaration c name).forM Registration.run (w.registry r) with ⟨_ | _, s, log⟩
  · exact .inl rfl
  · exact .inr rfl

/-- A declaration of a class that a registry holds nothing of, if it ends well, makes a table of
what the markers say. -/
theorem declareTable_tabulates (hr : r < w.registries.length)
    (hfresh : (w.registry r).entry w.view (w.ref c).key = {})
    (h : (declareTable c name r w).result = .ok ()) :
    ∃ t, ((declareTable c name r w).state.registry r).table w.view (.cls (w.ref c)) = .ok t ∧
      t.entity = .cls (w.ref c) ∧ name = .text t.name ∧ w.Tabulates c t := by
  have hk : (Value.cls (w.ref c)).key w.view = .ok (w.ref c).key := Value.key_cls _ _
  rw [result_declareTable] at h
  obtain ⟨hstate, hok⟩ := Registration.forM_run_of_ok h
  have hof : ∀ x ∈ w.declaration c name, x.IsOf w.view (.cls (w.ref c)) := fun _ => isOf_declaring
  let requests := (w.markers c).filterMap fun e => e.2.request? e.1
  let asked : List Registration := requests.map (⟨w.view, .cls (w.ref c), ·⟩)
  have hasked : ∀ x ∈ asked, x.isTable = false := by
    intro x hx
    obtain ⟨request, hrequest, rfl⟩ := List.mem_map.mp hx
    exact isTable_marker hrequest _ _
  have hpasses : ∀ e ∈ w.markers c, Passes w.view (.cls (w.ref c)) e := by
    intro e he request hrequest
    have hx : (⟨w.view, .cls (w.ref c), request⟩ : Registration) ∈ asked :=
      List.mem_map_of_mem (List.mem_filterMap.mpr ⟨e, he, hrequest⟩)
    obtain ⟨made, rest, hsplit⟩ := List.append_of_mem hx
    have hdeclaration : w.declaration c name =
        made ++ ⟨w.view, .cls (w.ref c), request⟩ :: (rest ++ [⟨w.view, .cls (w.ref c),
          .table name⟩]) := by
      show asked ++ _ = _
      rw [hsplit, List.append_assoc, List.cons_append]
    exact Registration.check_of_history hk hof hfresh hok hdeclaration
      fun y hy => hasked y (hsplit ▸ List.mem_append_left _ hy)
  obtain ⟨entry, a, ha⟩ := Registration.check_of_history hk hof hfresh hok
    (show w.declaration c name = asked ++ ⟨w.view, .cls (w.ref c), .table name⟩ :: [] from rfl)
    hasked
  obtain ⟨t, ht, -⟩ := map_eq_ok.mp ha
  obtain ⟨text, rfl, -⟩ := Registration.of_checkTable ht
  have hany : asked.any (·.isTable) = false :=
    List.any_eq_false.mpr fun y hy => by rw [hasked y hy]; exact Bool.false_ne_true
  have htold := Registry.entry_after_toldBy hk hof hfresh hok
  refine ⟨_, ?_, rfl, rfl, tabulates_of_passes hpasses text⟩
  rw [Registry.table_class_eq_ok, registry_declareTable hr, hstate]
  exact htold.table?.trans (tableGiven?_concat_table hany _ _ _)

end

end World

/-! ### Registrations in another view of the same objects -/

theorem Objects.Akin.symm {objects objects' : Objects} (h : Objects.Akin objects objects') :
    Objects.Akin objects' objects where
  rule := fun i name hn => (h.rule i name hn).symm
  read := fun i name hn => (h.read i name hn).symm
  items? := fun i => (h.items? i).symm

section

variable {objects objects' : Objects} (h : Objects.Akin objects objects')

include h

/-- What passes a check in one view passes it in the other one, with the same addition. -/
theorem Registration.check_akin {entity : Value} {request : Request} {e : Entry} {a : Addition}
    (ha : check ⟨objects, entity, request⟩ e = .ok a) :
    check ⟨objects', entity, request⟩ e = .ok a := by
  have htext {subject : Subject} {v : Value} {s : String}
      (hs : requireText objects subject v = .ok s) : requireText objects' subject v = .ok s := by
    rw [requireText_eq_ok] at hs ⊢
    exact hs
  have hkind {v : Value} {kind : RelationKind} (hk : RelationKind.given objects v = .ok kind) :
      RelationKind.given objects' v = .ok kind := by
    rw [RelationKind.given_eq_ok] at hk ⊢
    exact hk
  cases request with
  | column g =>
    obtain ⟨c, hc, rfl⟩ := map_eq_ok.mp ha
    obtain ⟨key, hkey, hc⟩ := bind_eq_ok.mp hc
    obtain ⟨name, hname, hc⟩ := bind_eq_ok.mp hc
    have hc' : checkColumn objects' entity e.columns g = .ok c := by
      rw [checkColumn, htext hkey, ok_bind, htext hname, ok_bind]
      exact hc
    exact congrArg (Except.map Addition.column) hc'
  | relation g =>
    obtain ⟨l, hl, rfl⟩ := map_eq_ok.mp ha
    obtain ⟨kind, hk, hl⟩ := bind_eq_ok.mp hl
    obtain ⟨key, hkey, hl⟩ := bind_eq_ok.mp hl
    obtain ⟨selfReference, hself, hl⟩ := bind_eq_ok.mp hl
    obtain ⟨targetTable, htable, hl⟩ := bind_eq_ok.mp hl
    obtain ⟨targetColumn, hcolumn, hl⟩ := bind_eq_ok.mp hl
    obtain ⟨target, htarget, hl⟩ := bind_eq_ok.mp hl
    have hl' : checkRelation objects' entity e.relations g = .ok l := by
      rw [checkRelation, hkind hk, ok_bind, htext hkey, ok_bind, htext hself, ok_bind,
        htext htable, ok_bind, htext hcolumn, ok_bind, TargetGiven.check_congr h htarget, ok_bind]
      exact hl
    exact congrArg (Except.map Addition.relation) hl'
  | table name =>
    obtain ⟨t, ht, rfl⟩ := map_eq_ok.mp ha
    obtain ⟨text, hname, ht⟩ := bind_eq_ok.mp ht
    have ht' : checkTable objects' entity e name = .ok t := by
      rw [checkTable, htext hname, ok_bind]
      exact ht
    exact congrArg (Except.map Addition.table) ht'

theorem Entry.after_akin (e : Entry) (entity : Value) (request : Request) :
    e.after ⟨objects', entity, request⟩ = e.after ⟨objects, entity, request⟩ := by
  have hadded : (Registration.verdict ⟨objects', entity, request⟩ e).addition? =
      (Registration.verdict ⟨objects, entity, request⟩ e).addition? := by
    apply Option.ext
    intro a
    rw [Registration.addition?_eq_some, Registration.addition?_eq_some]
    exact and_congr_right fun _ => ⟨Registration.check_akin h.symm, Registration.check_akin h⟩
  rw [Entry.after, Entry.after, hadded]

/-- Registrations of a class end well together in both views, and leave the same of it. -/
theorem Registration.forM_akin (c : ClassRef) (requests : List Request) {r r' : Registry}
    (hentry : r'.entry objects' c.key = r.entry objects c.key) :
    let o := (requests.map (⟨objects, .cls c, ·⟩)).forM Registration.run r
    let o' := (requests.map (⟨objects', .cls c, ·⟩)).forM Registration.run r'
    (o'.result = .ok () ↔ o.result = .ok ()) ∧
      o'.state.entry objects' c.key = o.state.entry objects c.key := by
  induction requests generalizing r r' with
  | nil => exact ⟨Iff.rfl, hentry⟩
  | cons request requests ih =>
    let x : Registration := ⟨objects, .cls c, request⟩
    let x' : Registration := ⟨objects', .cls c, request⟩
    have hlabel := Value.entityName_cls objects c
    have hlabel' := Value.entityName_cls objects' c
    have hk : (Value.cls c).key objects = .ok c.key := Value.key_cls _ _
    have hk' : (Value.cls c).key objects' = .ok c.key := Value.key_cls _ _
    have hafter : (x'.run r').state.entry objects' c.key = (x.run r).state.entry objects c.key := by
      have hx := entry_run (x := x) hk r c.key
      have hx' := entry_run (x := x') hk' r' c.key
      rw [if_pos rfl] at hx hx'
      rw [hx, hx', ← Entry.after_akin h]
      exact congrArg (Entry.after · x') hentry
    have hresult : (x'.run r').result = .ok () ↔ (x.run r).result = .ok () := by
      rw [result_run (x := x) hk r, result_run (x := x') hk' r', result_eq_ok (x := x) hlabel,
        result_eq_ok (x := x') hlabel']
      show (r'.entry objects' c.key).table?.isSome ∨
        (∃ a, x'.check (r'.entry objects' c.key) = _) ↔ _
      rw [hentry]
      exact or_congr_right (exists_congr fun a => ⟨check_akin h.symm, check_akin h⟩)
    have hcons : ((request :: requests).map (⟨objects, .cls c, ·⟩)).forM run =
        x.run >>= fun _ => (requests.map (⟨objects, .cls c, ·⟩)).forM run := rfl
    have hcons' : ((request :: requests).map (⟨objects', .cls c, ·⟩)).forM run =
        x'.run >>= fun _ => (requests.map (⟨objects', .cls c, ·⟩)).forM run := rfl
    dsimp only
    rw [hcons, hcons']
    cases hx : (x.run r).result with
    | ok _ =>
      rw [bind_run_of_ok hx, bind_run_of_ok (hresult.mpr hx)]
      exact ih hafter
    | error err =>
      cases hx' : (x'.run r').result with
      | ok _ => rw [hresult.mp hx'] at hx; cases hx
      | error err' =>
        rw [bind_run_of_error hx, bind_run_of_error hx']
        exact ⟨⟨(nomatch ·), (nomatch ·)⟩, hafter⟩

end

/-- Registrations of one entity leave the entries of the others as they are, however they end. -/
theorem Registration.entry_forM_of_ne {objects : Objects} {entity : Value} {k j : Key}
    (hk : entity.key objects = .ok k) (hj : j ≠ k) {l : List Registration}
    (hl : ∀ x ∈ l, x.IsOf objects entity) (r : Registry) :
    (l.forM run r).state.entry objects j = r.entry objects j := by
  induction l generalizing r with
  | nil => rfl
  | cons x l ih =>
    obtain ⟨rfl, rfl⟩ := hl x List.mem_cons_self
    have hcons : (x :: l).forM run = x.run >>= fun _ => l.forM run := rfl
    have hx := entry_run hk r j
    rw [if_neg (Ne.symm hj)] at hx
    rw [hcons]
    cases hresult : (x.run r).result with
    | error e => rw [bind_run_of_error hresult, hx]
    | ok _ =>
      rw [bind_state hresult, ih (fun y hy => hl y (List.mem_cons_of_mem x hy)), hx]

namespace World

/-! ### Declarations of several classes -/

/-- What is no marker and takes no marker's place changes no markers. -/
theorem markersOf_put {members : Assoc String Member} {name : String} {m : Member}
    (h : ∀ e ∈ members, e.1 = name → e.2.isMarker = false) (hm : m.isMarker = false) :
    markersOf (Assoc.put members name m) = markersOf members := by
  induction members with
  | nil => simp [markersOf, Assoc.put, hm]
  | cons e members ih =>
    have hrest := ih fun e' he => h e' (List.mem_cons_of_mem e he)
    rw [Assoc.put]
    split
    · rename_i hname
      have he : e.2.isMarker = false := h e List.mem_cons_self hname
      simp [markersOf, hm, he]
    · simp only [markersOf, List.filter_cons] at hrest ⊢
      rw [hrest]

theorem isMarker_eq_false_of_markerIn? {members : Assoc String Member} {name : String}
    (h : markerIn? members name = none) : ∀ e ∈ members, e.1 = name → e.2.isMarker = false := by
  rintro ⟨n, m⟩ he rfl
  cases hm : m.isMarker with
  | false => rfl
  | true =>
    have hmem : (n, m) ∈ (markersOf members).reverse := by
      rw [List.mem_reverse, markersOf, List.mem_filter]
      exact ⟨he, hm⟩
    have hkey : n ∈ Assoc.keys (markersOf members).reverse := List.mem_map_of_mem hmem
    have hfound : (markerIn? members n).isSome := Assoc.isSome_get?_iff.mpr hkey
    rw [h] at hfound
    cases hfound

section

variable {w : World} {c r : Nat} {name : Value}

/-- A declaration leaves the markers of a class as they are, unless it puts the registry in the
place of one of them. -/
theorem markers_declareTable {d : Nat}
    (h : c ∈ w.ancestors d → markerIn? (w.cls c).members registryAttribute = none) :
    (declareTable c name r w).state.markers d = w.markers d := by
  have hakin : World.Akin w (declareTable c name r w).state :=
    (Grown.of_registers (.declaration w c r name)).toAkin
  have hmarkers : ∀ a ∈ w.ancestors d,
      markersOf ((declareTable c name r w).state.cls a).members = markersOf (w.cls a).members := by
    intro a ha
    rcases classes_declareTable w c r name with hclasses | hclasses
    · rw [World.cls, hclasses, World.cls]
    · have hcls : (declareTable c name r w).state.cls a = (w.keeping c r).cls a := by
        rw [World.cls, hclasses, World.cls]
      have hset : (w.keeping c r).cls a = if a = c ∧ c < w.classes.length then _ else w.cls a :=
        cls_set w c a _
      rw [hcls, hset]
      split
      · rename_i hac
        obtain ⟨rfl, -⟩ := hac
        exact markersOf_put (isMarker_eq_false_of_markerIn? (h ha)) rfl
      · rfl
  rw [markers, markers, hakin.ancestors]
  congr 1
  refine List.flatMap_congr fun a ha => hmarkers a (List.mem_reverse.mp ha)

theorem key_ne_of_ne {d : Nat} (h : d ≠ c) : (w.ref d).key ≠ (w.ref c).key := by
  intro hk
  simp only [ClassRef.key, Key.atom, World.ref, RecordClass.ref] at hk
  simp_all

/-- A declaration leaves what is registered for everything else. -/
theorem entry_declareTable (hr : r < w.registries.length) {s : Nat} {k : Key}
    (h : s ≠ r ∨ k ≠ (w.ref c).key) :
    ((declareTable c name r w).state.registry s).entry w.view k =
      (w.registry s).entry w.view k := by
  by_cases hs : s = r
  · subst hs
    have hk : k ≠ (w.ref c).key := h.resolve_left (· rfl)
    rw [registry_declareTable hr]
    exact Registration.entry_forM_of_ne (Value.key_cls _ _) hk (fun _ => isOf_declaring) _
  · rw [registry_declareTable_of_ne hs]

theorem length_registries_declareTable :
    (declareTable c name r w).state.registries.length = w.registries.length := by
  rw [declareTable_run]
  rcases (w.declaration c name).forM Registration.run (w.registry r) with ⟨_ | _, s, log⟩
  · exact List.length_set
  · exact List.length_set

/-- Whether a class is declared after another one or without it, makes no difference to what is
registered for it. -/
theorem declareTable_after (hr : r < w.registries.length) {d s : Nat} (hd : d ≠ c)
    (hs : s < w.registries.length)
    (h : c ∈ w.ancestors d → markerIn? (w.cls c).members registryAttribute = none) (name' : Value) :
    let w' := (declareTable c name r w).state
    ((declareTable d name' s w').result = .ok () ↔ (declareTable d name' s w).result = .ok ()) ∧
      ((declareTable d name' s w').state.registry s).entry w.view (w.ref d).key =
        ((declareTable d name' s w).state.registry s).entry w.view (w.ref d).key := by
  intro w'
  have hakin : World.Akin w w' := (Grown.of_registers (.declaration w c r name)).toAkin
  have hlength : s < w'.registries.length := by
    rw [length_registries_declareTable]
    exact hs
  have hentry : (w'.registry s).entry w'.view (w.ref d).key =
      (w.registry s).entry w.view (w.ref d).key := by
    rw [Registry.entry_class w'.distinct_view w.distinct_view]
    exact entry_declareTable hr (.inr (key_ne_of_ne hd))
  have hdeclaration : w'.declaration d name' =
      declaring w'.view (.cls (w.ref d)) name' (w.markers d) := by
    rw [declaration, hakin.ref, markers_declareTable h]
  let requests : List Request :=
    ((w.markers d).filterMap fun e => e.2.request? e.1) ++ [.table name']
  have hdeclaring (objects : Objects) : declaring objects (.cls (w.ref d)) name' (w.markers d) =
      requests.map (⟨objects, .cls (w.ref d), ·⟩) := by
    rw [declaring, List.map_append]
    rfl
  obtain ⟨hresult, hstate⟩ := Registration.forM_akin hakin.view (w.ref d) requests hentry
  rw [result_declareTable, result_declareTable, registry_declareTable hlength,
    registry_declareTable hs, hdeclaration, hdeclaring, declaration, hdeclaring]
  refine ⟨hresult, ?_⟩
  rw [Registry.entry_class w.distinct_view w'.distinct_view]
  exact hstate

end

/-- A declaration registers each name once that some class in the order of ancestors binds to a
marker: with the marker of the first such class, and in the order in which the names first stand
from the most remote ancestor on. What is registered for everything else stays, and so does what a
later declaration of another class registers, unless the registry takes the place of a marker that
the class inherits. -/
theorem declareTable_registers (w : World) (c r : Nat) (name : Value)
    (hr : r < w.registries.length) :
    let w' := (declareTable c name r w).state
    ((w.registry r).entry w.view (w.ref c).key = {} → (declareTable c name r w).result = .ok () →
      ∃ t, (w'.registry r).table w'.view (.cls (w.ref c)) = .ok t ∧
        t.entity = .cls (w.ref c) ∧ name = .text t.name ∧ w.Tabulates c t ∧
        ∀ n, (∃ a ∈ w.ancestors c, (markerIn? (w.cls a).members n).isSome) →
          (t.propertyKeys ++ t.relations.map (·.propertyKey)).count n = 1) ∧
    (∀ s k, s ≠ r ∨ k ≠ (w.ref c).key →
      (w'.registry s).entry w.view k = (w.registry s).entry w.view k) ∧
    ∀ d s name', d ≠ c → s < w.registries.length →
      (c ∈ w.ancestors d → markerIn? (w.cls c).members registryAttribute = none) →
      ((declareTable d name' s w').result = .ok () ↔ (declareTable d name' s w).result = .ok ()) ∧
      ((declareTable d name' s w').state.registry s).entry w.view (w.ref d).key =
        ((declareTable d name' s w).state.registry s).entry w.view (w.ref d).key := by
  intro w'
  refine ⟨fun hfresh hok => ?_, fun s k h => entry_declareTable hr h, ?_⟩
  · obtain ⟨t, ht, hentity, hname, htabulates⟩ := declareTable_tabulates hr hfresh hok
    refine ⟨t, ?_, hentity, hname, htabulates, fun n hn => ?_⟩
    · exact Registry.table_class w.distinct_view w'.distinct_view ht
    · exact htabulates.count_eq_one (mem_markedNames.mpr hn)
  · intro d s name' hd hs hmarked
    exact declareTable_after hr hd hs hmarked name'

/-- Animals with an identity and something else, and dogs, which are animals of a name whose owner
is another entity. -/
def kennel (more : List (String × Member)) : World :=
  let marker (name : String) : Member := .column ⟨.text name, none, .bool false, .bool false⟩
  let owner : Member := .relation ⟨.manyToOne, .text "owner_id", .text "owners", .text "id",
    .target (.direct (.text "Owner"))⟩
  let animal : RecordClass :=
    { petClass with
      name := "Animal"
      members := ("id", marker "id") :: more
      bases := [root]
      ancestors := [3, root] }
  let dog : RecordClass :=
    { petClass with
      name := "Dog"
      members := [("name", marker "name"), ("owner", owner)]
      bases := [3]
      ancestors := [4, 3, root] }
  { initial with classes := initial.classes ++ [animal, dog] }

/-- The owner of a dog is the relation of its own class, in the place of the column that animals
have. Animals can be declared afterwards. -/
theorem declareTable_registers_dogs :
    let owned : List (String × Member) :=
      [("owner", .column ⟨.text "owner_id", none, .bool false, .bool false⟩)]
    let w' := (declareTable 4 (.text "dogs") 0 (kennel owned)).state
    (0 < (kennel owned).registries.length ∧
      ((kennel owned).registry 0).entry (kennel owned).view ((kennel owned).ref 4).key = {} ∧
      (declareTable 4 (.text "dogs") 0 (kennel owned)).result = .ok ()) ∧
    (kennel owned).markedNames 4 = ["id", "owner", "name"] ∧
    (∃ t, (w'.registry 0).table w'.view (.cls ((kennel owned).ref 4)) = .ok t ∧
      t.propertyKeys = ["id", "name"] ∧ t.relations.map (·.propertyKey) = ["owner"]) ∧
    (declareTable 3 (.text "animals") 0 w').result = .ok () := by
  intro owned w'
  have hok : (declareTable 4 (.text "dogs") 0 (kennel owned)).result = .ok () := rfl
  have hr : 0 < (kennel owned).registries.length := by decide
  obtain ⟨htable, -, hothers⟩ := declareTable_registers (kennel owned) 4 0 (.text "dogs") hr
  obtain ⟨t, ht, -, -, htabulates, -⟩ := htable rfl hok
  have hanimals := hothers 3 0 (.text "animals") (by decide) hr (fun h => absurd h (by decide))
  refine ⟨⟨hr, rfl, hok⟩, by decide, ⟨t, ht, ?_, ?_⟩, hanimals.1.mpr rfl⟩
  · rw [htabulates.columnKeys]
    decide
  · rw [htabulates.relationKeys]
    decide

/-- A marker under the name that classes keep their registry in is inherited only until its class is
declared. -/
theorem declareTable_replaces_marker :
    let w := kennel [(registryAttribute, .column ⟨.text "x", none, .bool false, .bool false⟩)]
    let w' := (declareTable 3 (.text "animals") 0 w).state
    let keys (w : World) : Option (List String) :=
      ((((declareTable 4 (.text "dogs") 0 w).state.registry 0).entry w.view
        (w.ref 4).key).table?).map Table.propertyKeys
    keys w = some ["id", registryAttribute, "name"] ∧ keys w' = some ["id", "name"] :=
  ⟨rfl, rfl⟩

end World

end RecordSql
