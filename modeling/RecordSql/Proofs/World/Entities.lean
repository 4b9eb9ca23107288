import RecordSql.Proofs.Registry.Soundness
import RecordSql.Proofs.Statement.Assignments
import RecordSql.Proofs.Statement.Rows
import RecordSql.Proofs.World.Answers
import RecordSql.Proofs.World.Growth

/-! Entities as sources: what an UPDATE makes of an object whose class has markers for its columns
and that does not tell what was set on it. It is what becomes of the mapping of its variables. -/

namespace RecordSql

open RecordSql.Action

namespace World

/-- An object that tells its class and its variables, and that is read by no rule of its own. -/
structure Tells (w : World) (i : Nat) (o : Instance) : Prop where
  object : w.object? i = some o
  reads : w.applyRule o "__getattribute__" = .ok ()
  kind : ∃ r, w.read i "__class__" = .ok (.cls r)
  vars : ∃ n, w.read i "__dict__" = .ok (.dict o.vars n)

/-- The objects of a regular world that have variables tell them. -/
theorem Regular.tells {w : World} (hw : w.Regular) {i : Nat} {o : Instance}
    (hi : w.object? i = some o) (hvars : w.hasVariables o.cls = true) : w.Tells i o where
  object := hi
  reads := hw.applyRule rfl o
  kind := ⟨w.ref o.cls, (view_read hi _).trans (hw.readInstance_class o)⟩
  vars := ⟨_, (view_read hi _).trans ((hw.readInstance_dict o).trans (if_pos hvars))⟩

namespace Tells

variable {w : World} {i : Nat} {o : Instance} (h : w.Tells i o)

include h

theorem checkClass (c : ClassRef) : (Value.object i c).checkClass w.view = .ok () := by
  obtain ⟨r, hr⟩ := h.kind
  have hread : w.view.read i "__class__" = .ok (.cls r) := hr
  rw [Value.checkClass, hread]
  rfl

/-- Under the name of a marker, the variable of that name is read. -/
theorem read_marked {name : String} {m : ColumnMarker} {v : Value}
    (hm : w.member? o.cls name = some (.column m)) (hv : o.own? name = some v) :
    w.read i name = .ok v := by
  have hplain : w.readPlain o name = .ok v := by
    rw [readPlain, hm]
    simp [Member.isData, hv]
  rw [World.read, h.object]
  dsimp only
  rw [readInstance, readWithin]
  dsimp only
  rw [h.reads, ok_bind, hplain]

theorem read_source {name : String} {m : ColumnMarker} {v : Value} (c : ClassRef)
    (hm : w.member? o.cls name = some (.column m)) (hv : o.own? name = some v) :
    Source.read w.view (.object i c) name = .ok v :=
  Source.read_eq_ok.mpr (.attr nofun (h.checkClass c) (h.read_marked hm hv))

/-- An object that does not tell what was set on it supplies the names of its variables. -/
theorem supplied_vars {f : Fault} (c : ClassRef) (hgiven : w.read i "model_fields_set" = .error f)
    (hf : f.kind = .attr) (feeds : Feeds) :
    Update.supplied w.view (.object i c) feeds = ⟨.ok (o.vars.map (·.1)), feeds, []⟩ := by
  have hnull : Source.read w.view (.object i c) "model_fields_set" = .ok .null :=
    Source.read_eq_ok.mpr (.noAttr nofun (h.checkClass c) hgiven hf)
  have hkeys : Source.variableKeys w.view (.object i c) = .ok (o.vars.map (·.1)) := by
    obtain ⟨n, hvars⟩ := h.vars
    have hattr : (Value.object i c).attr w.view "__dict__" = .ok (.dict o.vars n) := hvars
    rw [Source.variableKeys, hattr]
  have hsupplied : Update.supplied w.view (.object i c) = Source.toldKeys w.view (.object i c) :=
    rfl
  rw [hsupplied, Source.toldKeys, liftM_fault_bind_run, hnull]
  simp only [liftM_fault_run, hkeys]
  rfl

end Tells

end World

namespace Update

/-- The columns that are assigned are distinct, for tables that come from registrations. -/
theorem nodup_updated {r : Registry} {calls : List Call} {objects : Objects} {entity : Value}
    {t : Table} (hr : r = Registry.after ∅ calls) (ht : r.table objects entity = .ok t)
    (es : List (Value × Value)) : ((updated es t).map (·.name)).Nodup := by
  have hsound : r.Sound := by
    rw [hr]
    exact Registry.Sound.empty.after calls
  have hnames := (hsound.table ht).columns.names
  exact hnames.sublist (List.filter_sublist.map _)

/-- An UPDATE from a mapping assigns the columns that the mapping has an entry for and that are not
excluded, in their order, and binds what is stored for these entries before the values of the
conditions. Without such a column it is refused whatever the conditions are, and else it is refused
as they are. Neither the order of the entries nor entries for other keys matter. An object that does
not tell what was set on it is written as the mapping of its variables, if it tells these; where no
class has rules of its own, all objects that have variables do. -/
theorem writes_supplied (u : Update) :
    (∀ (ctx : Context) (t : Table) (es : List (Value × Value)) (n : Nat) (feeds : Feeds),
      ctx.registry.table ctx.objects u.entity = .ok t →
      let built source := (u.set source).build ctx feeds
      let compiled := (Where.compile ctx u.config t u.conditions u.mode .null feeds).result
      ((∀ c ∈ t.columns, ∃ b, c.excludeFromUpdate.truth ctx.objects = .ok b) →
        (updated es t = [] → (built (.dict es n)).result = .error (.nothingToSet t.name)) ∧
        (updated es t ≠ [] →
          (∀ c ∈ updated es t, ∀ v, Value.lookup? es c.propertyKey = some v →
            ∃ p, Column.stored ctx.objects (some c) v = .ok p) →
          ∃ params, List.Forall₂ (Binds ctx.objects es) (updated es t) params ∧
            (∀ e, compiled = .error e → (built (.dict es n)).result = .error e) ∧
            ∀ st, compiled = .ok st → (built (.dict es n)).result =
              .ok ⟨Statement.withWhere ("UPDATE " ++ t.name ++ " SET " ++
                commaSeparated ((updated es t).map fun c => c.name ++ " = ?")) st,
                params ++ st.params⟩)) ∧
      (∀ calls, ctx.registry = Registry.after ∅ calls →
        ((updated es t).map (·.name)).Nodup) ∧
      ∀ es' extra n', (Value.keyTexts es').Nodup → es'.Perm (es ++ extra) →
        (∀ c ∈ t.columns, c.excludeFromUpdate.truthy = false →
          c.propertyKey ∉ Value.keyTexts extra) →
        built (.dict es' n') = built (.dict es n)) ∧
    (∀ (w : World) (r : Nat) (operators : Operators) (i : Nat) (c : ClassRef) (o : Instance)
      (f : Fault) (n : Nat) (feeds : Feeds),
      w.Tells i o → w.read i "model_fields_set" = .error f → f.kind = .attr →
      (∀ t, (w.registry r).table w.view u.entity = .ok t → ∀ column ∈ t.columns,
        ∃ m, w.member? o.cls column.propertyKey = some (.column m)) →
      let built source := (u.set source).build (w.context r operators) feeds
      built (.object i c) = built (.dict o.vars n)) ∧
    ∀ (w : World) (i : Nat) (o : Instance), w.Regular → w.object? i = some o →
      w.hasVariables o.cls = true → w.Tells i o := by
  refine ⟨fun ctx t es n feeds ht => ⟨fun hflags => ⟨fun hnone => ?_, ?_⟩, ?_, ?_⟩, ?_,
    fun w i o hw hi hvars => hw.tells hi hvars⟩
  · exact congrArg Outcome.result (build_nothing ht hflags hnone)
  · exact fun hne hstored => build_updated ht hflags hne hstored
  · exact fun calls hr => nodup_updated hr ht es
  · intro es' extra n' hd hperm hextra
    apply build_congr rfl rfl
    intro t' ht' c hc
    obtain rfl := Except.ok.inj (ht.symm.trans ht')
    apply assignment_congr
    exact fun hkept => Value.lookup?_perm_append hperm hd (hextra c hc hkept)
  · intro w r operators i c o f n feeds htells hgiven hf hmarkers
    apply build_congr (htells.supplied_vars c hgiven hf feeds) rfl
    intro t ht column hcolumn
    obtain ⟨m, hm⟩ := hmarkers t ht column hcolumn
    apply assignment_alike
    exact fun v hv => htells.read_source c hm hv

/-- A pet whose key is its only variable. -/
def keyedWorld : World := { World.petsWorld with objects := [⟨3, [(.text "id", .int 7)], []⟩] }

theorem tells_keyedWorld : keyedWorld.Tells 0 ⟨3, [(.text "id", .int 7)], []⟩ where
  object := rfl
  reads := rfl
  kind := ⟨_, rfl⟩
  vars := ⟨0, rfl⟩

/-- Of a pet it is no longer known how it is called. Its age and a new key do not matter, since they
are not columns that are written. The other pet is an entity. -/
theorem writes_supplied_pets :
    let named : List (Value × Value) := [(.text "name", .null)]
    let further : List (Value × Value) := [(.text "age", .int 3), (.text "id", .int 8)]
    let renamed es := (((Update.of (.cls (.plain "Pet")) .usual .none).where_
      (.dict [(.text "id", .int 7)])).set (.dict es)).build petContext []
    let keyed source := ((Update.of (.cls (World.petWorld.ref 3)) .usual .none).set source).build
      (keyedWorld.context 1 .builtin) []
    (∃ p, Binds noObjects named ⟨"name", "name", none, .bool false, .bool false⟩ p ∧
      (renamed named).result = .ok ⟨"UPDATE pets SET name = ? WHERE pet_id = ?", [p, .int 7]⟩) ∧
    renamed (further ++ named) = renamed named ∧
    keyed (.object 0 (World.petWorld.ref 3)) = keyed (.dict [(.text "id", .int 7)]) := by
  intro named further renamed keyed
  have htable : petContext.registry.table noObjects (.cls (.plain "Pet")) = .ok petTable := rfl
  obtain ⟨hmapping, -⟩ := writes_supplied ((Update.of (.cls (.plain "Pet")) .usual .none).where_
    (.dict [(.text "id", .int 7)]))
  obtain ⟨hwritten, -, hsame⟩ := hmapping petContext petTable named 0 [] htable
  refine ⟨?_, ?_, ?_⟩
  · have hflags : ∀ c ∈ petTable.columns, ∃ b, c.excludeFromUpdate.truth noObjects = .ok b := by
      simp only [petTable, List.forall_mem_cons]
      exact ⟨⟨true, rfl⟩, ⟨false, rfl⟩, nofun⟩
    have hupdated : updated named petTable =
        [⟨"name", "name", none, .bool false, .bool false⟩] := rfl
    obtain ⟨-, hsome⟩ := hwritten hflags
    rw [hupdated] at hsome
    obtain ⟨params, hparams, -, hbuilt⟩ := hsome (by simp) fun c hc v hv => by
      obtain rfl := List.mem_singleton.mp hc
      cases hv
      exact ⟨.null, rfl⟩
    obtain ⟨p, _, hp, hnil, rfl⟩ := List.forall₂_cons_left_iff.mp hparams
    cases hnil
    exact ⟨p, hp, hbuilt ⟨"pet_id = ?", [.int 7]⟩ rfl⟩
  · apply hsame (further ++ named) further
    · decide
    · exact List.perm_append_comm
    · simp only [petTable, List.forall_mem_cons]
      exact ⟨nofun, fun _ => by decide, nofun⟩
  · obtain ⟨-, hentity, -⟩ := writes_supplied (Update.of (.cls (World.petWorld.ref 3)) .usual .none)
    apply hentity keyedWorld 1 .builtin 0 (World.petWorld.ref 3) _ _ 0 [] tells_keyedWorld rfl rfl
    intro t ht column hcolumn
    have hpets : (keyedWorld.registry 1).table keyedWorld.view (.cls (World.petWorld.ref 3)) =
        .ok World.petTable := rfl
    obtain rfl := Except.ok.inj (hpets.symm.trans ht)
    obtain rfl := List.mem_singleton.mp hcolumn
    exact ⟨_, rfl⟩

/-- The world of the pet, with a class by which its objects tell a number as their class. -/
def misclassedWorld : World :=
  let c := keyedWorld.cls 3
  let members := Assoc.put c.members "__class__" (.constant (.int 5))
  { keyedWorld with classes := keyedWorld.classes.set 3 { c with members } }

/-- Such an object is not written, though the mapping of its variables is. -/
theorem misclassed_object_fails :
    let pet : Instance := ⟨3, [(.text "id", .int 7)], []⟩
    let built source := (((Update.of (.cls (World.petWorld.ref 3)) .usual .none).set source).build
      (misclassedWorld.context 1 .builtin) []).result
    misclassedWorld.object? 0 = some pet ∧
      (∃ m, misclassedWorld.member? pet.cls "id" = some (.column m)) ∧
      (∃ f, misclassedWorld.read 0 "model_fields_set" = .error f ∧ f.kind = .attr) ∧
      built (.dict pet.vars) = .ok ⟨"UPDATE pets SET id = ?", [.int 7]⟩ ∧
      built (.object 0 (World.petWorld.ref 3)) = .error (.fault .classNeeded) :=
  ⟨rfl, ⟨_, rfl⟩, ⟨_, rfl, rfl⟩, rfl, rfl⟩

end Update

end RecordSql
