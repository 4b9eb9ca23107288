import Mathlib.Logic.Relation
import RecordSql.Proofs.Statement.Growth
import RecordSql.Proofs.World.Declaration

/-! Further registrations in a world, of any entities and of whole classes, whether they fail or
not: they leave all tables that there are, and they change no answer of an object but its text and
the registry of its class. So whatever could be built and read before can be so after them. -/

namespace RecordSql

/-! ### Tables stay -/

/-- A registration leaves the table of every entity as it is. -/
theorem Registration.tableAt?_run {x : Registration} {r : Registry} {k : Key} {t : Table}
    (ht : r.tableAt? x.objects k = some t) : (x.run r).state.tableAt? x.objects k = some t := by
  rcases x.state_cases r with h | ⟨j, a, hj, hn, -, h⟩
  · rw [h, ht]
  · have hjk : j ≠ k := by
      rintro rfl
      rw [hn] at ht
      cases ht
    have hentry := Registry.entry_add hj r a k
    rw [if_neg hjk] at hentry
    rw [h]
    exact (congrArg Entry.table? hentry).trans ht

theorem Registration.tableAt?_forM {objects : Objects} {l : List Registration}
    (hl : ∀ x ∈ l, x.objects = objects) {r : Registry} {k : Key} {t : Table}
    (ht : r.tableAt? objects k = some t) :
    (l.forM Registration.run r).state.tableAt? objects k = some t := by
  induction l generalizing r with
  | nil => exact ht
  | cons x l ih =>
    obtain rfl := hl x List.mem_cons_self
    have hcons : (x :: l).forM run = x.run >>= fun _ => l.forM run := rfl
    have hx := tableAt?_run ht
    rw [hcons]
    rcases hr : x.run r with ⟨_ | _, s, log⟩
    · rw [Action.bind_run_error hr]
      rwa [hr] at hx
    · rw [Action.bind_run_ok hr]
      rw [hr] at hx
      exact ih (fun y hy => hl y (List.mem_cons_of_mem x hy)) hx

namespace World

/-! ### Steps -/

/-- A further registration in a world: of something for an entity, or of all that a class declares.
-/
inductive Registers : World → World → Prop
  | entry (w : World) (r : Nat) (entity : Value) (request : Request) :
      Registers w (withRegistry r (Registration.run ⟨w.view, entity, request⟩) w).state
  | declaration (w : World) (c r : Nat) (name : Value) :
      Registers w (declareTable c name r w).state

/-- What a further registration leaves as it is. -/
structure Grown (w w' : World) : Prop extends World.Akin w w' where
  tables : ∀ r (c : ClassRef) t, (w.registry r).tableAt? w.view c.key = some t →
    (w'.registry r).tableAt? w'.view c.key = some t

namespace Grown

variable {w : World}

theorem refl (w : World) : Grown w w where
  toAkin := .refl w
  tables := fun _ _ _ h => h

theorem trans {w' w'' : World} (h : Grown w w') (h' : Grown w' w'') : Grown w w'' where
  toAkin := h.toAkin.trans h'.toAkin
  tables := fun r c t ht => h'.tables r c t (h.tables r c t ht)

/-- Classes have the same tables in all views of a registry. -/
theorem of_tables {w' : World} (h : World.Akin w w')
    (ht : ∀ r (c : ClassRef) t, (w.registry r).tableAt? w.view c.key = some t →
      (w'.registry r).tableAt? w.view c.key = some t) : Grown w w' where
  toAkin := h
  tables := fun r c t hr =>
    (Holdings.get?_class w'.distinct_view w.distinct_view _ c).trans (ht r c t hr)

/-- In place of a registry stands one with the same tables and perhaps further ones. -/
theorem of_registry {r : Nat} {registry : Registry}
    (h : ∀ k t, (w.registry r).tableAt? w.view k = some t → registry.tableAt? w.view k = some t) :
    Grown w { w with registries := w.registries.set r registry } := by
  refine of_tables (.registries w _) fun s c t ht => ?_
  by_cases hr : r < w.registries.length
  · by_cases hs : s = r
    · subst hs
      rw [registry_set hr]
      exact h _ t ht
    · rwa [registry_set_of_ne hs]
  · rwa [List.set_eq_of_length_le (Nat.le_of_not_lt hr)]

/-- A class finds another registry in itself. -/
theorem of_member (w : World) (c r : Nat) : Grown w (w.keeping c r) := by
  refine of_tables ⟨rfl, rfl, rfl, rfl, List.length_set, fun d => ?_⟩ fun _ _ _ ht => ht
  have hcls : (w.keeping c r).cls d = if d = c ∧ c < w.classes.length then _ else w.cls d :=
    cls_set w c d _
  rw [hcls]
  by_cases hd : d = c ∧ c < w.classes.length
  · obtain ⟨rfl, hd⟩ := hd
    refine ⟨Assoc.put (w.cls d).members registryAttribute (.registry r), if_pos ⟨rfl, hd⟩,
      fun name hn => ?_⟩
    rw [Assoc.get?_put, if_neg (Ne.symm hn)]
  · exact ⟨(w.cls d).members, if_neg hd, fun _ _ => rfl⟩

/-- One registration more. -/
theorem of_registers {w' : World} (h : Registers w w') : Grown w w' := by
  cases h with
  | entry r entity request =>
    exact of_registry fun k t ht => Registration.tableAt?_run ht
  | declaration c r name =>
    have hl : ∀ x ∈ w.declaration c name, x.objects = w.view := fun x hx => (isOf_declaring hx).1
    have hr := of_registry (fun k t => Registration.tableAt?_forM (k := k) (t := t) hl) (r := r)
    rw [declareTable_run]
    rcases ho : (w.declaration c name).forM Registration.run (w.registry r) with ⟨_ | _, s, log⟩
    · rwa [ho] at hr
    · rw [ho] at hr
      exact hr.trans (of_member _ c r)

/-- Any number of registrations more. -/
theorem of_reflTransGen {w' : World} (h : Relation.ReflTransGen Registers w w') : Grown w w' := by
  induction h with
  | refl => exact .refl w
  | tail _ step ih => exact ih.trans (of_registers step)

/-- What statements are built from has grown with the world. -/
theorem context {w' : World} (h : Grown w w') (hw : w.Unreserved) (r : Nat)
    (operators : Operators) : (w.context r operators).Grown (w'.context r operators) where
  operators := rfl
  scope := h.scope
  objects := { toAkin := h.view, key := h.objectKey hw }
  tables := fun c t ht => by
    rw [Registry.table_class_eq_ok] at ht ⊢
    exact h.tables r c t ht

end Grown

/-! ### Results stay -/

/-- What is drawn from the feeds without using any of them up is drawn again. -/
theorem drawing_stays {α : Type} {x y : Action Feeds α} (h : Action.Follows (· = ·) x y)
    {w w' : World} (hf : w'.feeds = w.feeds) {a : α} (hx : (drawing x w).result = .ok a)
    (hs : (drawing x w).state = w) :
    (drawing y w').result = .ok a ∧ (drawing y w').state = w' := by
  obtain ⟨b, hy, hstate, rfl⟩ := h w.feeds a hx
  have hfeeds : (x w.feeds).state = w.feeds := congrArg World.feeds hs
  rw [drawing, Action.within, hf]
  refine ⟨hy, ?_⟩
  dsimp only
  rw [hstate, hfeeds, ← hf]

/-- Registrations change no result: a statement that is built, and a row that is read, without using
up what can be gone through only once, are so after any further registrations as well. -/
theorem results_stay {w w' : World} (hw : w.Unreserved)
    (hreg : Relation.ReflTransGen Registers w w') (r : Nat) :
    (∀ (operators : Operators) (b : Builder) (c : ClassRef) (st : Statement),
      operators.Steadfast → b.entity = .cls c →
      (∀ t, (w.registry r).table w.view b.entity = .ok t → b.Settled w.scope t) →
      (drawing (b.build (w.context r operators)) w).result = .ok st →
      (drawing (b.build (w.context r operators)) w).state = w →
      (drawing (b.build (w'.context r operators)) w').result = .ok st ∧
        (drawing (b.build (w'.context r operators)) w').state = w') ∧
    ∀ (m : Mapper) (row : Value) (c : ClassRef) (cells : List (String × Value)),
      m.entity = .cls c → m.lead.Objectless →
      (∀ t, (w.registry r).table w.view m.entity = .ok t → t.Steadfast) →
      (extractRow m r row w).result = .ok cells → (extractRow m r row w).state = w →
      (extractRow m r row w').result = .ok cells ∧ (extractRow m r row w').state = w' := by
  have hgrown := Grown.of_reflTransGen hreg
  constructor
  · intro operators b c st hops hc hb hst hs
    exact drawing_stays (Builder.stays_build (hgrown.context hw r operators) hops hc hb)
      hgrown.feeds hst hs
  · intro m row c cells hc hm ht hcells hs
    exact drawing_stays (Mapper.stays_extract (hgrown.context hw r .builtin) hc hm ht row)
      hgrown.feeds hcells hs

/-- A world in which pets have a table. -/
def petsWorld : World := (declareTable 3 (.text "pets") 1 petWorld).state

/-- The table of pets. -/
def petTable : Table :=
  ⟨.cls (petWorld.ref 3), "pets", [⟨"id", "id", none, .bool false, .bool false⟩], []⟩

/-- The deletion of a pet. -/
def petDeletion : Builder :=
  .delete ⟨.cls (petWorld.ref 3), .usual, .none, .dict [(.text "id", .int 1)]⟩

theorem unreserved_petsWorld : petsWorld.Unreserved := by
  intro c fields hf
  have hnone : (petsWorld.cls c).fields? = none := by
    rcases c with _ | _ | _ | _ | c <;> rfl
  rw [hnone] at hf
  cases hf

theorem results_stay_petsWorld :
    let w' := (declareTable 3 (.text "animals") 1 petsWorld).state
    (petsWorld.Unreserved ∧ Relation.ReflTransGen Registers petsWorld w') ∧
    (drawing (petDeletion.build (w'.context 1 .builtin)) w').result =
      .ok ⟨"DELETE FROM pets WHERE id = ?", [.int 1]⟩ ∧
    (extractRow (petsWorld.mapper 3 .null .usual) 1
      (.dict [(.text "pets_id", .int 1)]) w').result = .ok [("id", .int 1)] := by
  intro w'
  have hreg : Relation.ReflTransGen Registers petsWorld w' :=
    .single (.declaration petsWorld 3 1 (.text "animals"))
  have htable : (petsWorld.registry 1).table petsWorld.view (.cls (petWorld.ref 3)) =
    .ok petTable := rfl
  have hsteadfast : petTable.Steadfast := by
    intro c hc f hf
    obtain rfl := List.mem_singleton.mp hc
    cases hf
  have hsettled : petDeletion.Settled petsWorld.scope petTable :=
    { transformers := hsteadfast
      targets := fun _ hr => nomatch hr
      written := fun k hk => by
        obtain rfl := List.mem_singleton.mp hk
        exact Value.objectless_text "id"
      sources := fun _ hv => absurd hv List.not_mem_nil }
  obtain ⟨hbuild, hextract⟩ := results_stay unreserved_petsWorld hreg 1
  refine ⟨⟨unreserved_petsWorld, hreg⟩, ?_, ?_⟩
  · refine (hbuild .builtin petDeletion _ _ Operators.steadfast_builtin rfl (fun t ht => ?_)
      rfl rfl).1
    obtain rfl := Except.ok.inj (htable.symm.trans ht)
    exact hsettled
  · refine (hextract _ _ (petWorld.ref 3) _ rfl (fun _ => List.not_mem_nil) (fun t ht => ?_)
      rfl rfl).1
    obtain rfl := Except.ok.inj (htable.symm.trans ht)
    exact hsteadfast

/-- A transformer that stores nothing but null. -/
def refusing : Transformer where
  name := "refusing"
  store _ _ := .error (.raised .value "boom")
  load _ _ := .error (.raised .value "boom")

/-- A world with a pet, in which a column is read under the name of the attribute that keeps
registries. -/
def reservedWorld : World :=
  let entity := Value.cls (petWorld.ref 3)
  let columns := [⟨registryAttribute, "x", some refusing, .bool false, .bool false⟩]
  let tables := [⟨(petWorld.ref 3).key.place, entity, ⟨entity, "pets", columns, []⟩⟩]
  { petWorld with registries := [∅, ⟨tables, [], []⟩], objects := [⟨3, [], []⟩] }

/-- The declaration of a class changes what is read of its objects under that name: an insertion
that could be built can be so no more. -/
theorem results_change :
    ¬∀ (w w' : World) (r : Nat) (b : Builder) (c : ClassRef) (st : Statement),
      Relation.ReflTransGen Registers w w' → b.entity = .cls c →
      (drawing (b.build (w.context r .builtin)) w).result = .ok st →
      (drawing (b.build (w.context r .builtin)) w).state = w →
      (drawing (b.build (w'.context r .builtin)) w').result = .ok st := by
  intro h
  let c := petWorld.ref 3
  let insertion : Builder := .insert ⟨.cls c, some [.object 0 c]⟩
  have hbuilt :
      (drawing (insertion.build (reservedWorld.context 1 .builtin)) reservedWorld).result =
        .ok ⟨"INSERT INTO pets(x) VALUES (?)", [.null]⟩ := rfl
  have hagain := h _ _ 1 insertion c _ (.single (.declaration reservedWorld 3 1 (.text "pets"))) rfl
    hbuilt rfl
  have hfails : (drawing (insertion.build
      ((declareTable 3 (.text "pets") 1 reservedWorld).state.context 1 .builtin))
      (declareTable 3 (.text "pets") 1 reservedWorld).state).result =
        .error (.transformation "x" .store (.raised .value "boom")) := rfl
  rw [hfails] at hagain
  cases hagain

end World

end RecordSql
