import RecordSql.Proofs.Builder.Tables
import RecordSql.Proofs.Registry.Commutation
import RecordSql.Proofs.World.Registries

/-! The order in which entities are declared does not matter.

Registries that runs alike lead to differ at most in the order of their tables. Builders and mappers
never look at that order; and making objects changes no registry, so this stays so from one row to
the next. -/

namespace RecordSql

namespace World

variable {w : World} {i j : Nat}

/-- A row is mapped in the same way over registries with the same tables. -/
theorem mapRow_congr
    (h : ∀ entity, (w.registry i).table w.view entity = (w.registry j).table w.view entity)
    (cls : Nat) (lead : Value) (config : Config) (row : Value) :
    mapRow cls i lead config row w = mapRow cls j lead config row w := by
  have hx : extractRow (w.mapper cls lead config) i row w =
      extractRow (w.mapper cls lead config) j row w := by
    unfold extractRow
    rw [Action.get_bind_run, Action.get_bind_run, Mapper.extract_congr h]
  unfold mapRow
  rw [Action.get_bind_run, Action.get_bind_run, Action.bind_run, Action.bind_run, hx]

section

variable (h : ∀ v : World, v.registries = w.registries → ∀ entity,
  (v.registry i).table v.view entity = (v.registry j).table v.view entity)

include h

theorem mapDrawn_congr (cls : Nat) (lead : Value) (config : Config) (rows : Value)
    (drawn : Value × List Value) {v : World} (hv : v.registries = w.registries) :
    mapDrawn cls i lead config rows drawn v = mapDrawn cls j lead config rows drawn v := by
  unfold mapDrawn
  rw [Action.bind_run, Action.bind_run]
  have hd := keeps_drawing (rows.leave drawn.2) v
  rcases hr : drawing (rows.leave drawn.2) v with ⟨_ | _, s, log⟩
  · rfl
  · rw [hr] at hd
    dsimp only
    rw [mapRow_congr (h s (hd.trans hv))]

/-- Several rows are, if the tables stay the same in all worlds with these registries. -/
theorem mapRows_congr (cls : Nat) (lead : Value) (config : Config) (rows : Value) :
    mapRows cls i lead config rows w = mapRows cls j lead config rows w := by
  unfold mapRows
  rw [Action.get_bind_run, Action.get_bind_run, Action.bind_run, Action.bind_run]
  have hd := keeps_drawing (rows.upcoming w.view) w
  rcases hr : drawing (rows.upcoming w.view) w with ⟨_ | items, v, log⟩
  · rfl
  · rw [hr] at hd
    have hitems : (Value.withRests items).mapM (mapDrawn cls i lead config rows) v =
        (Value.withRests items).mapM (mapDrawn cls j lead config rows) v :=
      Action.Keeps.mapM_congr (fun drawn => keeps_mapDrawn cls i lead config rows drawn)
        (fun drawn v hv => mapDrawn_congr h cls lead config rows drawn hv) _ hd
    dsimp only
    rw [Action.bind_run, Action.bind_run, hitems]

end

end World

/-- Registries that nothing tells apart that is asked of them over some objects: no lookup of an
entity, no statement and no reading of a row. -/
structure Registry.Indistinct (objects : Objects) (r r' : Registry) : Prop where
  table : ∀ entity, r.table objects entity = r'.table objects entity
  hasTable : ∀ entity, r.hasTable objects entity = r'.hasTable objects entity
  size : r.size = r'.size
  build : ∀ (operators : Operators) (scope : Scope) (b : Builder),
    b.build ⟨r, operators, objects, scope⟩ = b.build ⟨r', operators, objects, scope⟩
  extract : ∀ (m : Mapper) (row : Value), m.extract r objects row = m.extract r' objects row

/-- Runs whose registries can take each other's place, in views and worlds where the entities are
the keys that they were registered as. -/
structure Registry.Interchangeable (calls calls' : List Call) : Prop where
  indistinct : ∀ objects, SeenBy objects calls → SeenBy objects calls' →
    (Registry.after ∅ calls).Indistinct objects (Registry.after ∅ calls')
  /-- Mappers over either registry of one world make the same objects of rows. -/
  mapping : ∀ (w : World) (i j : Nat), w.registry i = Registry.after ∅ calls →
    w.registry j = Registry.after ∅ calls' →
    (∀ v : World, SeenBy v.view calls ∧ SeenBy v.view calls') →
    ∀ (cls : Nat) (lead : Value) (config : Config) (rows : Value),
      World.mapRow cls i lead config rows w = World.mapRow cls j lead config rows w ∧
      World.mapRows cls i lead config rows w = World.mapRows cls j lead config rows w

namespace Registry

variable {calls calls' : List Call}

theorem Alike.indistinct (h : Alike calls calls') (hl : Lasting calls) (hl' : Lasting calls')
    {objects : Objects} (ho : SeenBy objects calls) (ho' : SeenBy objects calls') :
    (Registry.after ∅ calls).Indistinct objects (Registry.after ∅ calls') := by
  have hentry := h objects ho ho'
  have htable (entity : Value) : (Registry.after ∅ calls).table objects entity =
      (Registry.after ∅ calls').table objects entity := by
    rw [table_eq, table_eq]
    simp only [hentry]
  exact
    { table := htable
      hasTable := fun entity => by
        have hat (k : Key) : (Registry.after ∅ calls).tableAt? objects k =
            (Registry.after ∅ calls').tableAt? objects k :=
          congrArg Entry.table? (hentry k)
        unfold Registry.hasTable
        simp only [hat]
      size := size_eq hl hl' ho ho' hentry
      build := Builder.build_congr htable
      extract := Mapper.extract_congr htable }

theorem Alike.interchangeable (h : Alike calls calls') (hl : Lasting calls)
    (hl' : Lasting calls') : Interchangeable calls calls' where
  indistinct := fun _ ho ho' => h.indistinct hl hl' ho ho'
  mapping := by
    intro w i j hi hj hseen cls lead config rows
    have htable (v : World) (hv : v.registries = w.registries) (entity : Value) :
        (v.registry i).table v.view entity = (v.registry j).table v.view entity := by
      have hvi : v.registry i = Registry.after ∅ calls := by rw [← hi, World.registry, hv]; rfl
      have hvj : v.registry j = Registry.after ∅ calls' := by rw [← hj, World.registry, hv]; rfl
      rw [hvi, hvj]
      exact (h.indistinct hl hl' (hseen v).1 (hseen v).2).table entity
    exact ⟨World.mapRow_congr (htable w rfl) cls lead config rows,
      World.mapRows_congr htable cls lead config rows⟩

/-- Registrations of different entities commute: of two runs that register the same for each entity,
in the same order, every call ends in the same way, further calls do, and all registries that they
lead to can take each other's place. -/
theorem registrations_commute {before : List Call} {l l' : List Registration}
    (hl : Lasting (before ++ l.map .register)) (hl' : Lasting (before ++ l'.map .register))
    (h : ∀ k, ofKey k l = ofKey k l') :
    let r := Registry.after ∅ before
    let calls := before ++ l.map .register
    let calls' := before ++ l'.map .register
    (∀ k, eventsOf k (r.history (l.map .register)) = eventsOf k (r.history (l'.map .register))) ∧
    (∀ e ∈ r.history (l.map .register) ++ r.history (l'.map .register), ∀ x f,
      e.call = .register x → x.entity.key x.objects = .error f →
        e = ⟨.register x, .error (.fault f), []⟩) ∧
    ∀ more, Lasting (calls ++ more) → Lasting (calls' ++ more) →
      (Registry.after ∅ calls).history more = (Registry.after ∅ calls').history more ∧
      Interchangeable (calls ++ more) (calls' ++ more) := by
  refine ⟨fun k => eventsOf_congr hl hl' (h k), ?_, fun more hm hm' => ?_⟩
  · intro e he x f hx hf
    rcases List.mem_append.mp he with he | he
    · exact event_of_unhashable _ _ he hx hf
    · exact event_of_unhashable _ _ he hx hf
  · obtain ⟨hevents, halike⟩ := (alike_of_ofKey hl hl' h).further hm hm'
    exact ⟨hevents, halike.interchangeable hm hm'⟩

/-- The declaration of a class with one column, in two steps. -/
def declaration (name table : String) : List Registration :=
  let of (request : Request) : Registration := ⟨noObjects, .cls (.plain name), request⟩
  [of (.column ⟨.text "id", .text "id", none, .bool false, .bool false⟩),
    of (.table (.text table))]

theorem lasting_declarations {l : List Registration}
    (h : ∀ x ∈ l, x ∈ declaration "Pet" "pets" ++ declaration "Owner" "owners") :
    Lasting ([] ++ l.map .register) := by
  refine lasting_of_classes fun x hx => ?_
  obtain ⟨_, hc, hx⟩ := List.mem_filterMap.mp hx
  obtain ⟨y, hy, rfl⟩ := List.mem_map.mp hc
  obtain rfl := Option.some.inj hx
  have := h y hy
  simp only [declaration, List.cons_append, List.nil_append, List.mem_cons, List.not_mem_nil,
    or_false] at this
  rcases this with rfl | rfl | rfl | rfl <;> exact ⟨_, rfl⟩

theorem ofKey_declaration {k : Key} {name table : String}
    (h : k ≠ .atom (.cls (.plain name))) : ofKey k (declaration name table) = [] := by
  refine List.filter_eq_nil_iff.mpr fun x hx hk => h ?_
  simp only [declaration, List.mem_cons, List.not_mem_nil, or_false] at hx
  have hk := Registration.key?_eq_some.mp (of_decide_eq_true hk)
  rcases hx with rfl | rfl
  · exact Except.ok.inj (hk.symm.trans (Value.key_cls _ _))
  · exact Except.ok.inj (hk.symm.trans (Value.key_cls _ _))

/-- Two classes can be declared in either order. -/
theorem declarations_commute :
    let l := declaration "Pet" "pets" ++ declaration "Owner" "owners"
    let l' := declaration "Owner" "owners" ++ declaration "Pet" "pets"
    (Lasting ([] ++ l.map .register) ∧ Lasting ([] ++ l'.map .register) ∧
      ∀ k, ofKey k l = ofKey k l') ∧
    (∀ k, eventsOf k ((Registry.after ∅ []).history (l.map .register)) =
      eventsOf k ((Registry.after ∅ []).history (l'.map .register))) ∧
    Interchangeable ([] ++ l.map .register ++ []) ([] ++ l'.map .register ++ []) := by
  intro l l'
  have hl : Lasting ([] ++ l.map .register) := lasting_declarations fun x hx => hx
  have hl' : Lasting ([] ++ l'.map .register) := lasting_declarations fun x hx =>
    (List.mem_append.mp hx).elim (List.mem_append_right _) (List.mem_append_left _)
  have hk (k : Key) : ofKey k l = ofKey k l' := by
    rw [ofKey, ofKey, List.filter_append, List.filter_append, ← ofKey, ← ofKey]
    by_cases h : k = .atom (.cls (.plain "Pet"))
    · have ho : ofKey k (declaration "Owner" "owners") = [] :=
        ofKey_declaration (by rw [h]; decide)
      rw [ho, List.append_nil, List.nil_append]
    · rw [ofKey_declaration h, List.append_nil, List.nil_append]
  obtain ⟨hevents, -, hmore⟩ := registrations_commute hl hl' hk
  refine ⟨⟨hl, hl', hk⟩, hevents, (hmore [] ?_ ?_).2⟩
  · rwa [List.append_nil]
  · rwa [List.append_nil]

end Registry

end RecordSql
