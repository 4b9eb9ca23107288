import RecordSql.Proofs.Registry.Call
import RecordSql.World.Construction
import RecordSql.World.Declaration

/-! What every registry that calls lead to satisfies, be the calls in vain or not.

The definitions of a final table are told apart by the checks that were made while they were
pending; naming the table does not look at them again. -/

namespace RecordSql

/-! ### Definitions -/

/-- Columns that are told apart by their properties and by their names. -/
structure Columns.Sound (l : List Column) : Prop where
  keys : (l.map (·.propertyKey)).Nodup
  names : (l.map (·.name)).Nodup
  key_written : ∀ c ∈ l, ¬Text.isBlank c.propertyKey
  name_written : ∀ c ∈ l, ¬Text.isBlank c.name

/-- Relations that are told apart by their properties. -/
structure Relations.Sound (l : List Relation) : Prop where
  keys : (l.map (·.propertyKey)).Nodup
  kind : ∀ r ∈ l, r.kind = .oneToMany ∨ r.kind = .manyToOne
  target : ∀ r ∈ l, (∃ entity, r.target = .direct entity) ∨ ∃ f, r.target = .deferred f
  key_written : ∀ r ∈ l, ¬Text.isBlank r.propertyKey
  selfReference_written : ∀ r ∈ l, ¬Text.isBlank r.selfReference
  targetTable_written : ∀ r ∈ l, ¬Text.isBlank r.targetTable
  targetColumn_written : ∀ r ∈ l, ¬Text.isBlank r.targetColumn

structure Table.Sound (t : Table) : Prop where
  name_written : ¬Text.isBlank t.name
  columns_ne_nil : t.columns ≠ []
  columns : Columns.Sound t.columns
  relations : Relations.Sound t.relations

/-- A registry whose tables are stored under their own entities, and whose definitions are sound. -/
structure Registry.Sound (r : Registry) : Prop where
  own : ∀ h ∈ r.tables, h.held.entity = h.entity
  tables : ∀ h ∈ r.tables, h.held.Sound
  columns_ne_nil : ∀ h ∈ r.pendingColumns, h.held ≠ []
  columns : ∀ h ∈ r.pendingColumns, Columns.Sound h.held
  relations_ne_nil : ∀ h ∈ r.pendingRelations, h.held ≠ []
  relations : ∀ h ∈ r.pendingRelations, Relations.Sound h.held

/-! ### Growth -/

theorem nodup_map_concat {α β : Type} {f : α → β} {l : List α} {a : α} (hl : (l.map f).Nodup)
    (ha : ∀ b ∈ l, f b ≠ f a) : ((l ++ [a]).map f).Nodup := by
  rw [List.map_append, List.map_singleton, List.nodup_append]
  refine ⟨hl, List.pairwise_singleton _ _, ?_⟩
  intro _ hb _ hfa
  obtain ⟨b, hbl, rfl⟩ := List.mem_map.mp hb
  exact List.mem_singleton.mp hfa ▸ ha b hbl

namespace Columns.Sound

theorem nil : Columns.Sound [] := by constructor <;> simp

theorem concat {l : List Column} (hl : Columns.Sound l) {c : Column}
    (hk : ¬Text.isBlank c.propertyKey) (hn : ¬Text.isBlank c.name)
    (hc : ∀ d ∈ l, d.propertyKey ≠ c.propertyKey ∧ d.name ≠ c.name) :
    Columns.Sound (l ++ [c]) where
  keys := nodup_map_concat hl.keys fun d hd => (hc d hd).1
  names := nodup_map_concat hl.names fun d hd => (hc d hd).2
  key_written := List.forall_mem_append.mpr ⟨hl.key_written, List.forall_mem_singleton.mpr hk⟩
  name_written := List.forall_mem_append.mpr ⟨hl.name_written, List.forall_mem_singleton.mpr hn⟩

/-- A column that passes its check can join the pending ones. -/
theorem check {objects : Objects} {entity : Value} {l : List Column} (hl : Columns.Sound l)
    {g : ColumnGiven} {c : Column}
    (hc : Registration.checkColumn objects entity l g = .ok c) : Columns.Sound (l ++ [c]) := by
  obtain ⟨-, hk, hn, hd⟩ := Registration.of_checkColumn hc
  exact hl.concat hk hn hd

end Columns.Sound

namespace Relations.Sound

theorem nil : Relations.Sound [] := by constructor <;> simp

/-- A relation that passes its check can join the pending ones. -/
theorem check {objects : Objects} {entity : Value} {l : List Relation} (hl : Relations.Sound l)
    {g : RelationGiven} {r : Relation}
    (hr : Registration.checkRelation objects entity l g = .ok r) : Relations.Sound (l ++ [r]) := by
  obtain ⟨-, -, -, ⟨-, hk⟩, ⟨-, hs⟩, ⟨-, ht⟩, -, hc⟩ := Registration.of_checkRelation hr
  refine
    { keys := nodup_map_concat hl.keys (Registration.of_checkRelation hr).2.2.1
      kind := List.forall_mem_append.mpr ⟨hl.kind, List.forall_mem_singleton.mpr ?_⟩
      target := List.forall_mem_append.mpr ⟨hl.target, List.forall_mem_singleton.mpr ?_⟩
      key_written := List.forall_mem_append.mpr
        ⟨hl.key_written, List.forall_mem_singleton.mpr hk⟩
      selfReference_written := List.forall_mem_append.mpr
        ⟨hl.selfReference_written, List.forall_mem_singleton.mpr hs⟩
      targetTable_written := List.forall_mem_append.mpr
        ⟨hl.targetTable_written, List.forall_mem_singleton.mpr ht⟩
      targetColumn_written := List.forall_mem_append.mpr
        ⟨hl.targetColumn_written, List.forall_mem_singleton.mpr hc⟩ }
  · cases r.kind
    · exact .inl rfl
    · exact .inr rfl
  · cases r.target with
    | direct entity => exact .inl ⟨entity, rfl⟩
    | deferred f => exact .inr ⟨f, rfl⟩

end Relations.Sound

/-! ### Single calls -/

namespace Registry.Sound

variable {r : Registry} {objects : Objects} {k : Key}

theorem empty : Registry.Sound ∅ := by constructor <;> intro h hh <;> cases hh

theorem pendingColumnsOf (hr : r.Sound) : Columns.Sound (r.pendingColumnsOf objects k) := by
  unfold Registry.pendingColumnsOf Holdings.get?
  cases hf : r.pendingColumns.find? (·.isFor objects k) with
  | none => exact .nil
  | some h => exact hr.columns h (List.mem_of_find?_eq_some hf)

theorem pendingRelationsOf (hr : r.Sound) :
    Relations.Sound (r.pendingRelationsOf objects k) := by
  unfold Registry.pendingRelationsOf Holdings.get?
  cases hf : r.pendingRelations.find? (·.isFor objects k) with
  | none => exact .nil
  | some h => exact hr.relations h (List.mem_of_find?_eq_some hf)

end Registry.Sound

/-- What holds of all that is held holds of it with something put to it that it holds of. -/
theorem forall_mem_put {α : Type} {objects : Objects} {m : Holdings α} {k : Key} {entity : Value}
    {a : α} {p : α → Prop} (hm : ∀ h ∈ m, p h.held) (ha : p a) :
    ∀ h ∈ Holdings.put objects m k entity a, p h.held := by
  intro h hh
  rcases Holdings.mem_put hh with hh | ⟨g, -, rfl⟩ | ⟨-, rfl⟩
  · exact hm h hh
  · exact ha
  · exact ha

namespace Registry.Sound

variable {r : Registry}

theorem step (hr : r.Sound) (x : Registration) : Registry.Sound (x.run r).state := by
  rcases x.state_cases r with h | ⟨k, a, -, hn, hc, h⟩
  · rw [h]
    exact hr
  · obtain ⟨objects, entity, request⟩ := x
    rw [h]
    cases request with
    | column g =>
      obtain ⟨c, hg, rfl⟩ := map_eq_ok.mp hc
      exact
        { hr with
          columns_ne_nil := forall_mem_put (p := (· ≠ [])) hr.columns_ne_nil (by simp)
          columns := forall_mem_put hr.columns (hr.pendingColumnsOf.check hg) }
    | relation g =>
      obtain ⟨l, hl, rfl⟩ := map_eq_ok.mp hc
      exact
        { hr with
          relations_ne_nil := forall_mem_put (p := (· ≠ [])) hr.relations_ne_nil (by simp)
          relations := forall_mem_put hr.relations (hr.pendingRelationsOf.check hl) }
    | table name =>
      obtain ⟨t, ht, rfl⟩ := map_eq_ok.mp hc
      obtain ⟨text, htext, ht⟩ := bind_eq_ok.mp ht
      split at ht
      · cases ht
      · rename_i hne
        cases ht
        have hmem {β : Type} {p : Holding β → Prop} {m : Holdings β} (hm : ∀ h ∈ m, p h) :
            ∀ h ∈ Holdings.erase objects m k, p h :=
          fun h hh => hm h ((List.mem_filter.mp hh).1)
        exact
          { own := by
              rw [add, Holdings.put_of_get?_eq_none hn]
              exact List.forall_mem_append.mpr ⟨hr.own, List.forall_mem_singleton.mpr rfl⟩
            tables := forall_mem_put hr.tables
              ⟨(requireText_eq_ok.mp htext).2, by simpa using hne, hr.pendingColumnsOf,
                hr.pendingRelationsOf⟩
            columns_ne_nil := hmem hr.columns_ne_nil
            columns := hmem hr.columns
            relations_ne_nil := hmem hr.relations_ne_nil
            relations := hmem hr.relations }

theorem after (hr : r.Sound) (calls : List Call) : Registry.Sound (r.after calls) := by
  induction calls generalizing r with
  | nil => exact hr
  | cons c calls ih => cases c with
    | register x => exact ih (hr.step x)
    | clear => exact ih .empty

end Registry.Sound

/-! ### Final and pending definitions

An entity that becomes another key is no longer found where it was registered. One that stays the
key that it was when it was first registered has either a table or pending definitions. -/

/-- A value that is one key in every registration of it and in all registrations after the first
one of them. -/
structure KeptAs (l : List Registration) (v : Value) (k : Key) : Prop where
  registered : ∀ x ∈ l, x.entity = v → v.key x.objects = .ok k
  since : l.Pairwise fun x y => x.entity = v → v.key y.objects = .ok k

/-- Two values that are one entity from their first registrations on. -/
def OneEntity (l : List Registration) (v w : Value) : Prop := ∃ k, KeptAs l v k ∧ KeptAs l w k

/-- A registry in which no entity has both a table and pending definitions. -/
structure Registry.Apart (l : List Registration) (r : Registry) : Prop where
  columns : ∀ h ∈ r.tables, ∀ p ∈ r.pendingColumns, ¬OneEntity l h.entity p.entity
  relations : ∀ h ∈ r.tables, ∀ p ∈ r.pendingRelations, ¬OneEntity l h.entity p.entity

namespace KeptAs

variable {l : List Registration} {x y : Registration} {v : Value} {k : Key}

theorem of_concat (h : KeptAs (l ++ [x]) v k) : KeptAs l v k where
  registered := fun y hy => h.registered y (List.mem_append_left _ hy)
  since := (List.pairwise_append.mp h.since).1

/-- What was registered is the same key to the last registration. -/
theorem key_last (h : KeptAs (l ++ [x]) v k) (hy : y ∈ l) (hv : y.entity = v) :
    v.key x.objects = .ok k :=
  (List.pairwise_append.mp h.since).2.2 y hy x (List.mem_singleton_self x) hv

/-- What is first registered among later registrations needs to be one key in these only. -/
theorem append {l' : List Registration} (hl : ∀ x ∈ l, x.entity ≠ v)
    (hl' : ∀ x ∈ l', v.key x.objects = .ok k) : KeptAs (l ++ l') v k where
  registered := by
    intro x hx he
    rcases List.mem_append.mp hx with hx | hx
    · exact absurd he (hl x hx)
    · exact hl' x hx
  since := by
    refine List.pairwise_append.mpr ⟨?_, ?_, fun x hx y _ he => absurd he (hl x hx)⟩
    · exact (List.pairwise_of_forall_mem_list fun x hx _ _ he => absurd he (hl x hx))
    · exact (List.pairwise_of_forall_mem_list fun _ _ y hy _ => hl' y hy)

/-- Classes are the same keys to all registrations. -/
theorem cls (l : List Registration) (c : ClassRef) : KeptAs l (.cls c) (.atom (.cls c)) where
  registered := fun x _ _ => Value.key_cls x.objects c
  since := List.pairwise_of_forall fun _ y _ => Value.key_cls y.objects c

end KeptAs

namespace OneEntity

variable {l : List Registration} {x : Registration} {v w : Value}

theorem symm (h : OneEntity l v w) : OneEntity l w v := by
  obtain ⟨k, hv, hw⟩ := h
  exact ⟨k, hw, hv⟩

theorem of_concat (h : OneEntity (l ++ [x]) v w) : OneEntity l v w := by
  obtain ⟨k, hv, hw⟩ := h
  exact ⟨k, hv.of_concat, hw.of_concat⟩

theorem cls (l : List Registration) (c : ClassRef) : OneEntity l (.cls c) (.cls c) :=
  ⟨_, KeptAs.cls l c, KeptAs.cls l c⟩

/-- What is held for the entity of a registration is found by it. -/
theorem isFor {α : Type} {m : Holdings α} (hm : m.PlacedBy l) {h : Holding α} (hh : h ∈ m)
    (he : OneEntity (l ++ [x]) x.entity h.entity) {k : Key}
    (hk : x.entity.key x.objects = .ok k) : h.isFor x.objects k = true := by
  obtain ⟨j, hx, hj⟩ := he
  obtain ⟨y, hy, hv, i, hi, hp⟩ := hm h hh
  have hkey := hx.registered x (by simp) rfl
  have hplaced := hj.of_concat.registered y hy hv
  have hnow := hj.key_last hy hv
  obtain rfl : k = j := Except.ok.inj (hk.symm.trans hkey)
  obtain rfl : i = k := Except.ok.inj (hi.symm.trans hplaced)
  simp [Holding.isFor, hp, hnow, Except.toOption]

end OneEntity

namespace Registry.Apart

variable {r : Registry} {l : List Registration} {α : Type} {x : Registration} {k : Key}

/-- Definitions that are put for an entity without a table. -/
theorem put {m : Holdings α} (hp : r.PlacedBy l) (hk : x.entity.key x.objects = .ok k)
    (hn : r.tableAt? x.objects k = none) {a : α}
    (hm : ∀ h ∈ r.tables, ∀ p ∈ m, ¬OneEntity l h.entity p.entity) :
    ∀ h ∈ r.tables, ∀ p ∈ Holdings.put x.objects m k x.entity a,
      ¬OneEntity (l ++ [x]) h.entity p.entity := by
  intro h hh p hpm he
  rcases Holdings.mem_put hpm with hpm | ⟨q, hq, rfl⟩ | ⟨-, rfl⟩
  · exact hm h hh p hpm he.of_concat
  · exact hm h hh q hq he.of_concat
  · have := Holdings.get?_eq_none.mp hn h hh
    rw [he.symm.isFor hp.tables hh hk] at this
    cases this

/-- Definitions from which those of an entity are taken when its table is put. -/
theorem erase {m : Holdings α} (hp : m.PlacedBy l) (hk : x.entity.key x.objects = .ok k)
    {t : Table} (hm : ∀ h ∈ r.tables, ∀ p ∈ m, ¬OneEntity l h.entity p.entity) :
    ∀ h ∈ Holdings.put x.objects r.tables k x.entity t, ∀ p ∈ Holdings.erase x.objects m k,
      ¬OneEntity (l ++ [x]) h.entity p.entity := by
  intro h hh p hpm he
  obtain ⟨hpm, hpk⟩ := List.mem_filter.mp hpm
  rcases Holdings.mem_put hh with hh | ⟨g, hg, rfl⟩ | ⟨-, rfl⟩
  · exact hm h hh p hpm he.of_concat
  · exact hm g hg p hpm he.of_concat
  · rw [he.isFor hp hpm hk] at hpk
    cases hpk

theorem concat {m : Holdings α} (hm : ∀ h ∈ r.tables, ∀ p ∈ m, ¬OneEntity l h.entity p.entity) :
    ∀ h ∈ r.tables, ∀ p ∈ m, ¬OneEntity (l ++ [x]) h.entity p.entity :=
  fun h hh p hpm he => hm h hh p hpm he.of_concat

theorem step (hr : r.Apart l) (hp : r.PlacedBy l) (x : Registration) :
    Registry.Apart (l ++ [x]) (x.run r).state := by
  rcases x.state_cases r with h | ⟨k, a, hk, hn, -, h⟩
  · rw [h]
    exact ⟨concat hr.columns, concat hr.relations⟩
  · rw [h]
    cases a with
    | column c => exact ⟨put hp hk hn hr.columns, concat hr.relations⟩
    | relation l => exact ⟨concat hr.columns, put hp hk hn hr.relations⟩
    | table t => exact ⟨erase hp.pendingColumns hk hr.columns,
        erase hp.pendingRelations hk hr.relations⟩

theorem after (calls : List Call) :
    Registry.Apart (standing calls) (Registry.after ∅ calls) := by
  induction calls using List.reverseRecOn with
  | nil => constructor <;> intro h hh <;> cases hh
  | append_singleton calls c ih =>
    rw [after_concat]
    cases c with
    | register x =>
      rw [standing_concat_register]
      exact ih.step (placedBy_after calls) x
    | clear => constructor <;> intro h hh <;> cases hh

end Registry.Apart

/-! ### Lookup -/

/-- Among things with different names, a value names the only one of its text. -/
theorem Value.sought_eq_some {α : Type} {objects : Objects} {v : Value} {l : List α}
    {name : α → String} (hl : (l.map name).Nodup) {a : α} :
    v.sought objects l name = .ok (some a) ↔
      v.checkEquality objects = .ok () ∧ a ∈ l ∧ v.text? = some (name a) := by
  have hf : (l.find? fun b => v.text? = some (name b)) = some a ↔
      a ∈ l ∧ v.text? = some (name a) := by
    induction l with
    | nil => simp
    | cons b l ih =>
      rw [List.map_cons, List.nodup_cons] at hl
      rw [List.find?_cons]
      by_cases hb : v.text? = some (name b)
      · rw [decide_eq_true hb]
        constructor
        · rintro ⟨⟩
          exact ⟨List.mem_cons_self, hb⟩
        · rintro ⟨ha, hn⟩
          rcases List.mem_cons.mp ha with rfl | ha
          · rfl
          · have : name a = name b := Option.some.inj (hn.symm.trans hb)
            exact absurd (this ▸ List.mem_map_of_mem ha) hl.1
      · rw [decide_eq_false hb, ih hl.2]
        constructor
        · exact fun ⟨ha, hn⟩ => ⟨List.mem_cons_of_mem _ ha, hn⟩
        · rintro ⟨ha, hn⟩
          rcases List.mem_cons.mp ha with rfl | ha
          · exact absurd hn hb
          · exact ⟨ha, hn⟩
  unfold sought
  split
  · simp
  · rw [← hf]
    cases v.checkEquality objects with
    | error f => simp
    | ok _ => simp [pure, Except.pure]

/-- In every registry that calls lead to from the empty one, definitions are sound, what is held
stands where it was put for its entity, no entity that stays the same key has both a table and
pending definitions, and a property leads to the only definition that a table has for it. -/
theorem Registry.reachable_sound (calls : List Call) :
    let r := Registry.after ∅ calls
    r.Sound ∧ r.PlacedBy (standing calls) ∧ r.Apart (standing calls) ∧
      (∀ c, OneEntity (standing calls) (.cls c) (.cls c)) ∧
      ∀ h ∈ r.tables, ∀ (objects : Objects) (key : Value),
        (∀ c, h.held.column? objects key = .ok (some c) ↔
          key.checkEquality objects = .ok () ∧ c ∈ h.held.columns ∧
            key.text? = some c.propertyKey) ∧
        ∀ l, h.held.relation? objects key = .ok (some l) ↔
          key.checkEquality objects = .ok () ∧ l ∈ h.held.relations ∧
            key.text? = some l.propertyKey := by
  have hs : (Registry.after ∅ calls).Sound := Registry.Sound.empty.after calls
  refine ⟨hs, placedBy_after calls, .after calls, OneEntity.cls _,
    fun h hh objects key => ⟨fun c => ?_, fun l => ?_⟩⟩
  · exact Value.sought_eq_some (hs.tables h hh).columns.keys
  · exact Value.sought_eq_some (hs.tables h hh).relations.keys

/-! ### An object that becomes another key -/

/-- A column of a property of the same name. -/
def Request.namesake (name : String) : Request :=
  .column ⟨.text name, .text name, none, .bool false, .bool false⟩

namespace World

/-- Declares three classes, each derived from the one before: the second one makes keys of the
fields of its objects, which cannot be set, and the third one lets them be set. -/
def declareOpen : Action World Nat := do
  let frozen (b : Bool) : Member := .constant (.dict [(.text "frozen", .bool b)])
  let base ← declare "Base" "Base" (.validated [⟨"x", .required⟩] "ignore") [] []
  let fixed ← declare "Fixed" "Fixed" .loose [base] [("model_config", frozen true)]
  declare "Open" "Open" .loose [fixed] [("model_config", frozen false)]

/-- A world with an object of the third class. -/
def openWorld : World :=
  ((do create (← declareOpen) (.dict [(.text "x", .int 1)]) : Action World Value) initial).state

def openObject : Value := .object 0 (openWorld.ref 5)

/-- The world after the field of the object is set anew. -/
def changedWorld : World := (setAttr openObject "x" (.int 2) openWorld).state

/-- The key that the object is at first. -/
def openKey : Key := ⟨[.record 5 1, .int 1], [.null, .null]⟩

theorem key_openObject : openObject.key openWorld.view = .ok openKey := by
  have hk : (openObject.key openWorld.view).toOption = some openKey := by decide +kernel
  exact (Registration.key?_eq_some (x := ⟨openWorld.view, openObject, .table .null⟩)).mp hk

end World

namespace Registry

/-- The object is registered after a class, in a world that was not there before, and stays the key
that it was then. So it has a table, and nothing is pending for it. -/
theorem reachable_sound_open :
    let column : Registration := ⟨noObjects, .cls (.plain "Pet"), .namesake "id"⟩
    let open_ (request : Request) : Registration :=
      ⟨World.openWorld.view, World.openObject, request⟩
    let calls : List Call := [.register column, .register (open_ (.namesake "name")),
      .register (open_ (.table (.text "opens")))]
    let r := Registry.after ∅ calls
    OneEntity (standing calls) World.openObject World.openObject ∧
      (∃ h ∈ r.tables, h.entity = World.openObject ∧ h.held.Sound) ∧
      (∃ p ∈ r.pendingColumns, p.entity = .cls (.plain "Pet")) ∧
      ∀ p ∈ r.pendingColumns, p.entity ≠ World.openObject := by
  intro column open_ calls r
  obtain ⟨hsound, hplaced, hapart, -⟩ := reachable_sound calls
  have hkept : KeptAs ([column] ++ [open_ (.namesake "name"), open_ (.table (.text "opens"))])
      World.openObject World.openKey := by
    refine .append (fun x hx he => ?_) fun x hx => ?_
    · rw [List.mem_singleton.mp hx] at he
      cases he
    · simp only [List.mem_cons, List.not_mem_nil, or_false] at hx
      rcases hx with rfl | rfl <;> exact World.key_openObject
  have hone : OneEntity (standing calls) World.openObject World.openObject := ⟨_, hkept, hkept⟩
  have htable : ∃ h ∈ r.tables, h.entity.isOne World.openObject := by decide +kernel
  have hpending : ∃ p ∈ r.pendingColumns, ¬p.entity.isOne World.openObject := by decide +kernel
  have hentity {v : Value} (hv : ∃ x ∈ standing calls, x.entity = v) :
      v = .cls (.plain "Pet") ∨ v = World.openObject := by
    obtain ⟨x, hx, rfl⟩ := hv
    have hx : x ∈ [column, open_ (.namesake "name"), open_ (.table (.text "opens"))] := hx
    simp only [List.mem_cons, List.not_mem_nil, or_false] at hx
    rcases hx with rfl | rfl | rfl
    · exact .inl rfl
    · exact .inr rfl
    · exact .inr rfl
  obtain ⟨h, hh, hobject⟩ := htable
  obtain ⟨p, hp, hother⟩ := hpending
  obtain ⟨x, hx, he, -⟩ := hplaced.tables h hh
  obtain ⟨y, hy, hf, -⟩ := hplaced.pendingColumns p hp
  have hopen : h.entity = World.openObject := by
    refine (hentity ⟨x, hx, he⟩).resolve_left fun hc => ?_
    rw [hc] at hobject
    cases hobject
  have hpet : p.entity = .cls (.plain "Pet") := by
    refine (hentity ⟨y, hy, hf⟩).resolve_right fun hc => ?_
    rw [hc] at hother
    exact hother rfl
  refine ⟨hone, ⟨h, hh, hopen, hsound.tables h hh⟩, ⟨p, hp, hpet⟩, fun q hq hc => ?_⟩
  exact hapart.columns h hh q hq (hopen ▸ hc ▸ hone)

/-- One object has a table and pending columns: it became another key in between. -/
theorem changed_entity_stays_pending :
    let r := Registry.after ∅
      [.register ⟨World.openWorld.view, World.openObject, .namesake "id"⟩,
        .register ⟨World.changedWorld.view, World.openObject, .namesake "name"⟩,
        .register ⟨World.changedWorld.view, World.openObject, .table (.text "pets")⟩]
    ∃ h ∈ r.tables, ∃ p ∈ r.pendingColumns, h.entity.isOne p.entity := by
  decide +kernel

end Registry

end RecordSql
