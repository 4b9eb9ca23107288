import RecordSql.Proofs.Registry.Classes
import RecordSql.Proofs.World.Assembly
import RecordSql.Proofs.World.Declaration

/-! Which errors reach the caller. In a regular world the library tells its failures by errors of
its own, with two exceptions: an object without variables can neither be the source of an update nor
be told as a plain mapping; and what goes wrong as the copy of an entity is made is not told as a
failed construction, as it is when a row is mapped. An error of the library reaches the caller as it
is, unless it tells of a cause that has no text. -/

namespace RecordSql.World

variable {w : World}

/-- Whether an object is one of a world. -/
def Holds (w : World) (i : Nat) : Prop := ∃ o, w.object? i = some o

/-- A build fails with one of the library's own errors, or for an update by an object without
variables. -/
theorem Regular.build_error (hw : w.Regular) (hproper : ∀ i o, w.object? i = some o → w.Proper o)
    {r c : Nat} {b : Builder} (hc : b.entity = .cls (w.ref c)) (hb : b.Usual w.Holds)
    (ht : ∀ t, w.tableIn? w.view c r = some t → t.Usual w.Holds w.scope) {e : Error}
    (he : (drawing (b.build (w.context r .builtin)) w).result = .error e) :
    e.IsTold ∨ ∃ u i k o, b = .update u ∧ u.source = .object i k ∧ w.object? i = some o ∧
      w.hasVariables o.cls = false ∧ e = .fault .noVariables := by
  have hknown (i : Nat) (hi : w.Holds i) : w.view.Answers i := by
    obtain ⟨o, ho⟩ := hi
    exact hw.answers ho (hproper i o ho)
  have hserves : (w.context r .builtin).Serves b.entity := fun t hfound =>
    (ht t (Registry.table_class_eq_ok.mp (hc ▸ hfound))).mono hknown
  have hbuild := Builder.lands_build rfl hc (hb.mono hknown) hserves w.feeds trivial
  rcases hbuild.error e he with hown | ⟨u, rfl, ⟨-, i, k, f, hsource, hf⟩, rfl⟩
  · exact .inl hown
  have hi : w.Holds i := by
    have hu := hb.1
    rw [hsource] at hu
    cases hu with
    | object _ hi => exact hi
  obtain ⟨o, ho⟩ := hi
  refine .inr ⟨u, i, k, o, rfl, hsource, ho, ?_, rfl⟩
  have hread : w.readInstance o "__dict__" = .error f := Regular.view_read ho _ ▸ hf
  rw [hw.readInstance_dict] at hread
  split at hread
  · cases hread
  · exact Bool.eq_false_iff.mpr ‹_›

/-- Which errors reach the caller, in a world where no class has rules of its own: those of the
library, but for objects without variables, and for the copies of entities. -/
theorem failures_own (hw : w.Regular) (hproper : ∀ i o, w.object? i = some o → w.Proper o) :
    (∀ (r c : Nat) (b : Builder), b.entity = .cls (w.ref c) → b.Usual w.Holds →
      (∀ t, w.tableIn? w.view c r = some t → t.Usual w.Holds w.scope) →
      ∀ e, (drawing (b.build (w.context r .builtin)) w).result = .error e →
        e.IsTold ∨ ∃ u i k o, b = .update u ∧ u.source = .object i k ∧ w.object? i = some o ∧
          w.hasVariables o.cls = false ∧ e = .fault .noVariables) ∧
    (∀ (r c : Nat) (lead : Value) (config : Config) (es : List (Value × Value)) (n : Nat),
      (lead = .null ∨ ∃ s, lead = .text s) →
      (∀ t, w.tableIn? w.view c r = some t → w.Assembles c t.propertyKeys) →
      ∀ e, (mapRow c r lead config (.dict es n) w).result = .error e → e.IsTold) ∧
    ∀ (i : Nat) (k : ClassRef) (o : Instance), w.object? i = some o →
      (∀ name ∈ ["clone", "to_plain"], w.requireHelper o name = .ok ()) →
      (∀ e, w.toPlain (.object i k) = .error e →
        e.IsTold ∨ w.hasVariables o.cls = false ∧ e = .fault .noVariables) ∧
      (w.Loose o.cls → w.Constructs o.cls →
        (∀ l, w.toPlain (.object i k) = .ok l → ∀ d ∈ l, w.Settable o.cls d.1) →
        ∀ e, (clone (.object i k) w).result = .error e →
          e.IsTold ∨ e.IsFault [.type, .attr, .frozen]) := by
  refine ⟨fun r c b hc hb ht e he => hw.build_error hproper hc hb ht he, ?_, ?_⟩
  · intro r c lead config es n hlead hc e he
    exact (hw.lands_mapRow hlead (fun t ht => hc t (Registry.table_class_eq_ok.mp ht))
      config es n w rfl).error e he
  · intro i k o hi hhelp
    refine ⟨fun e he => hw.toPlain_error hi (hhelp _ (.tail _ (.head _))) he, ?_⟩
    intro hloose hc hset e he
    exact (hw.lands_clone hi hhelp hloose hc hset w rfl).error e he

/-! ### An entity that is frozen -/

/-- A class with a field that is set only once. -/
def namedClass : RecordClass where
  name := "Named"
  qualname := "Named"
  label := "app.Named"
  shape := .fielded [⟨"id", .value (.int 1)⟩] true
  slots? := none
  members := [("__module__", .constant (.text "app")), ("id", .constant (.int 1)),
      ("__annotations__", .constant (.dict [(.text "id", anyClass)])),
      ("__doc__", .constant (.text "Named(id: Any = 1)")), ("__dict__", .ownVariables),
      ("__weakref__", .weakLinks "Named"), constructorSettings true] ++
    fieldedMembers "Named" [] [⟨"id", .value (.int 1)⟩] true
  bases := [root]
  ancestors := [3, root]
  layout := root
  room := helpersClass.room
  schema? := none

/-- A class of entities derived from it. -/
def frozenClass : RecordClass where
  name := "Pet"
  qualname := "Pet"
  label := "app.Pet"
  shape := .loose
  slots? := none
  members := [("__module__", .constant (.text "app")), ("__doc__", .constant .null)]
  bases := [3, helpers]
  ancestors := [4, 3, helpers, root]
  layout := root
  room := helpersClass.room
  schema? := none

/-- The reference to this class. -/
def frozenRef : ClassRef := frozenClass.ref 4 "type"

/-- A world with a table for this class and an object of it. -/
def frozenWorld : World :=
  let entity := Value.cls frozenRef
  let table : Table := ⟨entity, "pets", [⟨"id", "id", none, .bool false, .bool false⟩], []⟩
  { initial with
    registries := [⟨[⟨frozenRef.key.place, entity, table⟩], [], []⟩]
    classes := initial.classes ++ [namedClass, frozenClass]
    objects := [⟨4, [(.text "id", .int 1)], []⟩] }

theorem cls_mem (h : rootClass ∈ w.classes) (c : Nat) : w.cls c ∈ w.classes := by
  rw [cls, List.getD_eq_getElem?_getD]
  cases hc : w.classes[c]? with
  | none => exact h
  | some _ => exact List.mem_of_getElem? hc

theorem regular_frozenWorld : frozenWorld.Regular where
  members c name m hm := by
    have husual : (frozenWorld.classes.all fun k => k.members.all fun e => e.2.isUsual e.1) =
        true := by decide +kernel
    have hc := List.all_eq_true.mp husual _ (cls_mem List.mem_cons_self c)
    exact List.all_eq_true.mp hc _ (Assoc.mem_of_get? hm)
  linked c := by
    rcases c with _ | _ | _ | _ | _ | c <;> simp only [List.forall_mem_cons] <;>
      exact ⟨rfl, rfl, fun _ h => absurd h List.not_mem_nil⟩
  unvalidated c hc := by
    rcases c with _ | _ | _ | _ | _ | c <;> first | exact ⟨rfl, rfl⟩ | cases hc
  validated c hc := by
    rcases c with _ | _ | _ | _ | _ | c <;> try cases hc
    simp only [List.forall_mem_cons]
    exact ⟨rfl, rfl, rfl, rfl, rfl, rfl, fun _ h => absurd h List.not_mem_nil⟩

theorem proper_frozenWorld (i : Nat) (o : Instance) (hi : frozenWorld.object? i = some o) :
    frozenWorld.Proper o := by
  obtain ⟨hlt, rfl⟩ := List.getElem?_eq_some_iff.mp hi
  obtain rfl : i = 0 := Nat.lt_one_iff.mp hlt
  exact {
    hidden := rfl
    named := fun e he => by
      obtain rfl := List.mem_singleton.mp he
      exact ⟨"id", rfl⟩
    extra := fun v hv => nomatch hv
    unvalidated := fun _ => rfl
    validated := fun h => nomatch h }

theorem settable_frozenWorld : frozenWorld.Settable 4 "id" := ⟨nofun, nofun⟩

theorem constructs_frozenWorld : frozenWorld.Constructs 4 := by
  intro a fields frozen ha hs f hf
  obtain rfl : 3 = a := Option.some.inj ha
  obtain ⟨rfl, rfl⟩ := Shape.fielded.inj hs
  obtain rfl := List.mem_singleton.mp hf
  refine ⟨.inr ⟨rfl, fun m hm => ?_⟩, by decide, fun h => nomatch h⟩
  obtain rfl := Option.some.inj hm
  rfl

theorem requireHelper_frozenWorld (name : String) (h : name ∈ ["clone", "to_plain"]) :
    frozenWorld.requireHelper ⟨4, [(.text "id", .int 1)], []⟩ name = .ok () := by
  rcases List.mem_pair.mp h with rfl | rfl <;> rfl

theorem toPlain_frozenWorld :
    frozenWorld.toPlain (.object 0 frozenRef) = .ok [("id", .int 1)] := rfl

/-- The update of a pet by no values. -/
def frozenUpdate : Builder := .update ⟨.cls frozenRef, .usual, .none, .dict [], .null⟩

/-- A row with a pet. -/
def frozenRow : List (Value × Value) := [(.text "pets_id", .int 2)]

theorem build_frozenWorld :
    (drawing (frozenUpdate.build (frozenWorld.context 0 .builtin)) frozenWorld).result =
      .error (.nothingToSet "pets") := rfl

theorem mapRow_frozenWorld : (mapRow 4 0 .null .usual (.dict frozenRow) frozenWorld).result =
    .error (.construction "Pet" (.frozenSet "id")) := rfl

theorem clone_frozenWorld : (clone (.object 0 frozenRef) frozenWorld).result =
    .error (.fault (.frozenSet "id")) := rfl

theorem failures_own_frozenWorld :
    (frozenWorld.Regular ∧ ∀ i o, frozenWorld.object? i = some o → frozenWorld.Proper o) ∧
    (∃ e, (drawing (frozenUpdate.build (frozenWorld.context 0 .builtin)) frozenWorld).result =
      .error e ∧ e.IsTold) ∧
    (∃ e, (mapRow 4 0 .null .usual (.dict frozenRow) frozenWorld).result = .error e ∧ e.IsTold) ∧
    ∃ e, (clone (.object 0 frozenRef) frozenWorld).result = .error e ∧
      (e.IsTold ∨ e.IsFault [.type, .attr, .frozen]) := by
  obtain ⟨hbuild, hrow, hobject⟩ := failures_own regular_frozenWorld proper_frozenWorld
  refine ⟨⟨regular_frozenWorld, proper_frozenWorld⟩, ⟨_, build_frozenWorld, ?_⟩,
    ⟨_, mapRow_frozenWorld, ?_⟩, ⟨_, clone_frozenWorld, ?_⟩⟩
  · refine (hbuild 0 4 frozenUpdate rfl ⟨.dict [] 0, .inl rfl⟩ (fun t ht => ?_) _
      build_frozenWorld).resolve_right ?_
    · obtain rfl := Option.some.inj ht
      exact ⟨fun c hc => List.mem_singleton.mp hc ▸ ⟨trivial, trivial⟩, fun _ hr => nomatch hr⟩
    · rintro ⟨u, i, k, o, hu, hsource, -⟩
      obtain rfl := Builder.update.inj hu
      cases hsource
  · refine hrow 0 4 .null .usual _ 0 (.inl rfl) (fun t ht => ?_) _ mapRow_frozenWorld
    obtain rfl := Option.some.inj ht
    exact {
      loose := fun _ => ⟨constructs_frozenWorld, fun key hkey =>
        List.mem_singleton.mp hkey ▸ settable_frozenWorld⟩
      validated := fun h => nomatch h }
  · refine (hobject 0 frozenRef _ rfl requireHelper_frozenWorld).2 (.inl rfl)
      constructs_frozenWorld (fun l hl d hd => ?_) _ clone_frozenWorld
    obtain rfl := Except.ok.inj (toPlain_frozenWorld.symm.trans hl)
    exact List.mem_singleton.mp hd ▸ settable_frozenWorld

/-- The copy of an entity whose class is frozen fails by the fault of the class itself. -/
theorem clone_raises :
    ¬∀ (w : World) (i : Nat) (k : ClassRef) (o : Instance), w.Regular →
      (∀ i o, w.object? i = some o → w.Proper o) → w.object? i = some o →
      (∀ name ∈ ["clone", "to_plain"], w.requireHelper o name = .ok ()) →
      ∀ e, (clone (.object i k) w).result = .error e → e.IsOwn := by
  intro h
  exact Error.not_isOwn_fault (.frozenSet "id") (h frozenWorld 0 frozenRef _ regular_frozenWorld
    proper_frozenWorld rfl requireHelper_frozenWorld _ clone_frozenWorld)

end RecordSql.World
