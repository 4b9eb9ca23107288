import RecordSql.Proofs.Registry.Classes
import RecordSql.Proofs.Registry.Commutation
import RecordSql.Proofs.World.Reading
import RecordSql.World.Declaration

/-! What a declaration leaves behind when it fails.

A declaration registers the markers of its class one after the other and names the table last. Each
registration is made as a whole or not at all, but the declaration takes none of them back: those
before the failure stay pending, and every later declaration of the class repeats the first one. -/

namespace RecordSql

/-! ### Registrations one after the other -/

namespace Registration

/-- Registrations that are made until one of them fails: those before it end well. -/
theorem forM_run_of_error {l : List Registration} {r : Registry} {e : Error}
    (h : (l.forM run r).result = .error e) :
    ∃ made x rest, l = made ++ x :: rest ∧
      (∀ event ∈ r.history (made.map .register), event.result = .ok ()) ∧
      (x.run (r.after (made.map .register))).result = .error e ∧
      (l.forM run r).state = (x.run (r.after (made.map .register))).state := by
  induction l generalizing r with
  | nil => cases h
  | cons x l ih =>
    have hcons : (x :: l).forM run = x.run >>= fun _ => l.forM run := rfl
    rw [hcons] at h ⊢
    rcases hx : x.run r with ⟨_ | _, t, log⟩
    · rw [Action.bind_run_error hx] at h ⊢
      refine ⟨[], x, l, rfl, fun _ he => absurd he List.not_mem_nil, ?_, ?_⟩
      · rw [List.map_nil, Registry.after_nil, hx]
        exact h
      · rw [List.map_nil, Registry.after_nil, hx]
    · rw [Action.bind_run_ok hx] at h ⊢
      obtain ⟨made, y, rest, rfl, hmade, hy, hs⟩ := ih h
      have ht : r.after ((x :: made).map .register) = t.after (made.map .register) := by
        rw [List.map_cons, Registry.after_cons, Call.run, hx]
      refine ⟨x :: made, y, rest, rfl, fun event he => ?_, by rw [ht, hy], by rw [ht]; exact hs⟩
      rw [List.map_cons, Registry.history, Call.run, hx] at he
      rcases List.mem_cons.mp he with rfl | he
      · rfl
      · exact hmade event he

/-- Whether a registration is for an entity, over some objects. -/
def IsOf (objects : Objects) (entity : Value) (x : Registration) : Prop :=
  x.objects = objects ∧ x.entity = entity

end Registration

namespace Registry

variable {objects : Objects} {entity : Value} {k : Key} {r : Registry} {made : List Registration}

/-- Registrations of one entity leave the entries of the others as they are. -/
theorem entry_after_of_ne (hk : entity.key objects = .ok k)
    (hmade : ∀ x ∈ made, x.IsOf objects entity) {j : Key} (hj : j ≠ k) :
    (r.after (made.map .register)).entry objects j = r.entry objects j := by
  induction made generalizing r with
  | nil => rfl
  | cons x made ih =>
    obtain ⟨rfl, rfl⟩ := hmade x List.mem_cons_self
    rw [List.map_cons, after_cons, ih fun y hy => hmade y (List.mem_cons_of_mem x hy), Call.run,
      Registration.entry_run hk, if_neg (Ne.symm hj)]

/-- Registrations of one entity that end well account for its entry. -/
theorem entry_after_toldBy (hk : entity.key objects = .ok k)
    (hmade : ∀ x ∈ made, x.IsOf objects entity) (hr : r.entry objects k = {})
    (hok : ∀ event ∈ r.history (made.map .register), event.result = .ok ()) :
    ((r.after (made.map .register)).entry objects k).ToldBy made := by
  induction made using List.reverseRecOn with
  | nil =>
    rw [List.map_nil, after_nil, hr]
    exact .nil
  | append_singleton made x ih =>
    obtain ⟨rfl, rfl⟩ := hmade x (by simp)
    rw [List.map_append, List.map_singleton] at hok ⊢
    rw [history_concat] at hok
    have hlast := hok _ (List.mem_append_right _ List.mem_cons_self)
    rw [Call.run, Registration.result_run hk] at hlast
    rw [after_concat, Call.run, Registration.entry_run hk, if_pos rfl]
    exact (ih (fun y hy => hmade y (List.mem_append_left _ hy))
      fun event he => hok event (List.mem_append_left _ he)).returned hlast

/-- Registrations of one entity that name no table change no final tables. -/
theorem tables_after (hmade : ∀ x ∈ made, x.isTable = false) :
    (r.after (made.map .register)).tables = r.tables := by
  induction made generalizing r with
  | nil => rfl
  | cons x made ih =>
    rw [List.map_cons, after_cons, ih fun y hy => hmade y (List.mem_cons_of_mem x hy), Call.run]
    obtain ⟨objects, entity, request⟩ := x
    rcases Registration.state_cases ⟨objects, entity, request⟩ r with h | ⟨k, a, -, -, hc, h⟩
    · rw [h]
    · rw [h]
      cases request with
      | column g =>
        obtain ⟨c, -, rfl⟩ := map_eq_ok.mp hc
        rfl
      | relation g =>
        obtain ⟨l, -, rfl⟩ := map_eq_ok.mp hc
        rfl
      | table name => exact absurd (hmade _ List.mem_cons_self) (Bool.true_eq_false.mp ·)

end Registry

/-! ### Repeated registrations -/

/-- A value other than a class is a target if it can be called. -/
theorem TargetGiven.check_value_eq_ok {objects : Objects} {v : Value} (hcls : ∀ c, v ≠ .cls c)
    (hnull : v ≠ .null) {t : Target} : (value v).check objects = .ok t ↔
      v.checkKind objects = .ok () ∧ v.isCallable objects.rule = true ∧
        .deferred (fun _ => .error (v.uncallable objects.rule)) = t := by
  rw [check]
  · cases hk : v.checkKind objects with
    | error f => simp
    | ok _ => by_cases hcall : v.isCallable objects.rule = true <;> simp [hcall]
  · exact hcls
  · exact hnull

/-- What is a target in one view is so in another one of the same objects. -/
theorem TargetGiven.check_congr {objects objects' : Objects} (h : Objects.Akin objects objects')
    {g : TargetGiven} {t : Target} (ht : g.check objects = .ok t) : g.check objects' = .ok t := by
  cases g with
  | target _ => exact ht
  | resolver _ => exact ht
  | value v =>
    by_cases hcls : ∃ c, v = .cls c
    · obtain ⟨c, rfl⟩ := hcls
      exact ht
    by_cases hnull : v = .null
    · rw [hnull] at ht
      cases ht
    have hcls : ∀ c, v ≠ .cls c := fun c hc => hcls ⟨c, hc⟩
    rw [check_value_eq_ok hcls hnull] at ht ⊢
    rwa [h.checkKind, h.isCallable, h.uncallable]

namespace Registration

variable {objects objects' : Objects} {entity : Value}

/-- A definition that stands first among the pending ones is not made again. -/
theorem verdict_repeated (h : Objects.Akin objects objects') {request : Request}
    (ht : isTable ⟨objects, entity, request⟩ = false) {a : Addition}
    (hc : check ⟨objects, entity, request⟩ {} = .ok a) (made : List Registration) :
    let pending := ⟨objects, entity, request⟩ :: made
    ∃ definition key, verdict ⟨objects', entity, request⟩
        ⟨none, pending.filterMap (·.column?), pending.filterMap (·.relation?)⟩ =
      ⟨.error (.duplicate definition key entity), none, []⟩ := by
  intro pending
  have hwritten {subject : Subject} {s : String} (hs : ¬Text.isBlank s) :
      requireText objects' subject (.text s) = .ok s := requireText_eq_ok.mpr ⟨rfl, hs⟩
  cases request with
  | column g =>
    obtain ⟨c, hg, rfl⟩ := map_eq_ok.mp hc
    have hc' : pending.filterMap (·.column?) = c :: made.filterMap (·.column?) :=
      List.filterMap_cons_some (column?_of_check hg)
    obtain ⟨rfl, hkey, hname, -⟩ := of_checkColumn hg
    refine ⟨.propertyKey, c.propertyKey, ?_⟩
    simp only [verdict, check, checkColumn, hwritten hkey, hwritten hname, Registry.clash?, hc',
      ok_bind, ↓reduceIte, Option.isSome_some, List.findSome?_cons_of_isSome]
    rfl
  | relation g =>
    obtain ⟨l, hg, rfl⟩ := map_eq_ok.mp hc
    have hl : pending.filterMap (·.relation?) = l :: made.filterMap (·.relation?) :=
      List.filterMap_cons_some (relation?_of_check hg)
    obtain ⟨kind, propertyKey, selfReference, targetTable, targetColumn, target⟩ := g
    obtain ⟨hkind, htarget, -, ⟨rfl, hkey⟩, ⟨rfl, hs⟩, ⟨rfl, htt⟩, rfl, htc⟩ :=
      of_checkRelation hg
    refine ⟨.relation, l.propertyKey, ?_⟩
    simp only [verdict, check, checkRelation, RelationKind.given_eq_ok.mpr hkind, hwritten hkey,
      hwritten hs, hwritten htt, hwritten htc, TargetGiven.check_congr h htarget, hl, List.any_cons,
      decide_true, Bool.true_or, ok_bind, ↓reduceIte]
    rfl
  | table name => cases ht

end Registration

/-! ### The registrations of a declaration -/

/-- What a marker asks of a registry. -/
def Member.request? (attr : String) : Member → Option Request
  | .column m => some (.column (m.given attr))
  | .relation m => some (.relation (m.given attr))
  | _ => none

namespace World

/-- The registrations of some markers and then of the table. -/
def declaring (objects : Objects) (entity name : Value) (found : List (String × Member)) :
    List Registration :=
  (found.filterMap fun e => e.2.request? e.1).map (⟨objects, entity, ·⟩) ++
    [⟨objects, entity, .table name⟩]

/-- The registrations that the declaration of a class makes, one after the other. -/
def declaration (w : World) (c : Nat) (name : Value) : List Registration :=
  declaring w.view (.cls (w.ref c)) name (w.markers c)

theorem registerMarkers_eq (objects : Objects) (entity name : Value)
    (found : List (String × Member)) : registerMarkers objects entity name found =
      (declaring objects entity name found).forM Registration.run := by
  induction found with
  | nil =>
    show (pure () >>= fun _ => Registry.registerTable objects entity name) =
      (Registry.registerTable objects entity name >>= fun _ => pure ())
    rw [pure_bind, bind_pure_unit]
  | cons e found ih =>
    have hcons : registerMarkers objects entity name (e :: found) =
        registerMarker objects entity e.1 e.2 >>= fun _ =>
          registerMarkers objects entity name found := by
      show (registerMarker objects entity e.1 e.2 >>= fun _ => _) >>= _ = _
      rw [bind_assoc]
      rfl
    rw [hcons, ih]
    obtain ⟨attr, m⟩ := e
    cases m <;> rfl

theorem isOf_declaring {objects : Objects} {entity name : Value} {found : List (String × Member)}
    {x : Registration} (hx : x ∈ declaring objects entity name found) : x.IsOf objects entity := by
  rcases List.mem_append.mp hx with hx | hx
  · obtain ⟨request, -, rfl⟩ := List.mem_map.mp hx
    exact ⟨rfl, rfl⟩
  · obtain rfl := List.mem_singleton.mp hx
    exact ⟨rfl, rfl⟩

theorem isTable_marker {found : List (String × Member)} {request : Request}
    (h : request ∈ found.filterMap fun e => e.2.request? e.1) (objects : Objects)
    (entity : Value) : Registration.isTable ⟨objects, entity, request⟩ = false := by
  obtain ⟨⟨attr, m⟩, -, hm⟩ := List.mem_filterMap.mp h
  cases m with
  | column _ | relation _ =>
    cases hm
    rfl
  | _ => cases hm

theorem markers_of_declaring {objects : Objects} {entity name : Value}
    {found : List (String × Member)} {made rest : List Registration} {x : Registration}
    (h : declaring objects entity name found = made ++ x :: rest) :
    (found.filterMap fun e => e.2.request? e.1).map (⟨objects, entity, ·⟩) =
      made ++ (x :: rest).dropLast := by
  rw [← List.dropLast_append_of_ne_nil (List.cons_ne_nil x rest), ← h, declaring,
    List.dropLast_concat]

/-- Only markers are registered before the last registration of a declaration. -/
theorem isTable_of_declaring {objects : Objects} {entity name : Value}
    {found : List (String × Member)} {made rest : List Registration} {x : Registration}
    (h : declaring objects entity name found = made ++ x :: rest) :
    ∀ y ∈ made, y.isTable = false := by
  intro y hy
  have hmem := markers_of_declaring h ▸ List.mem_append_left _ hy
  obtain ⟨request, hr, rfl⟩ := List.mem_map.mp hmem
  exact isTable_marker hr objects entity

/-- The first marker of a class is registered first, whatever the table is called. -/
theorem exists_declaring_eq_cons {objects : Objects} {entity name : Value}
    {found : List (String × Member)} {made rest : List Registration} {x y : Registration}
    (h : declaring objects entity name found = y :: made ++ x :: rest) (objects' : Objects)
    (name' : Value) :
    ∃ more, declaring objects' entity name' found = ⟨objects', entity, y.request⟩ :: more := by
  have hmarkers := markers_of_declaring h
  rw [declaring]
  cases hf : found.filterMap fun e => e.2.request? e.1 with
  | nil =>
    rw [hf] at hmarkers
    cases hmarkers
  | cons request requests =>
    rw [hf, List.map_cons, List.cons_append] at hmarkers
    obtain ⟨rfl, -⟩ := List.cons.inj hmarkers
    exact ⟨_, rfl⟩

theorem set_registry {w : World} {r : Nat} (hr : r < w.registries.length) :
    w.registries.set r (w.registry r) = w.registries := by
  simp [World.registry, hr]

theorem registry_set {w : World} {r : Nat} (hr : r < w.registries.length) (registry : Registry) :
    World.registry { w with registries := w.registries.set r registry } r = registry := by
  simp [World.registry, hr]

theorem registry_set_of_ne {w : World} {r s : Nat} (hs : s ≠ r) (registry : Registry) :
    World.registry { w with registries := w.registries.set r registry } s = w.registry s := by
  simp [World.registry, List.getElem?_set_ne (Ne.symm hs)]

/-- The classes of a world in which one is exchanged. -/
theorem cls_set (w : World) (c d : Nat) (cls : RecordClass) :
    World.cls { w with classes := w.classes.set c cls } d =
      if d = c ∧ c < w.classes.length then cls else w.cls d := by
  simp only [World.cls, List.getD_eq_getElem?_getD, List.getElem?_set]
  by_cases hd : c = d
  · subst hd
    by_cases hc : c < w.classes.length <;> simp [hc]
  · simp [hd, Ne.symm hd]

/-- The world in which a class keeps the registry of its table. -/
def keeping (w : World) (c r : Nat) : World :=
  let cls := w.cls c
  let members := Assoc.put cls.members registryAttribute (.registry r)
  { w with classes := w.classes.set c { cls with members } }

theorem declareTable_run (w : World) (c r : Nat) (name : Value) :
    declareTable c name r w =
      let o := (w.declaration c name).forM Registration.run (w.registry r)
      let w' := { w with registries := w.registries.set r o.state }
      match o.result with
      | .ok () => ⟨.ok (), w'.keeping c r, o.log⟩
      | .error e => ⟨.error e, w', o.log⟩ := by
  unfold declareTable declaration
  rw [Action.get_bind_run, registerMarkers_eq, Action.bind_run, withRegistry, Action.within]
  dsimp only
  cases (((declaring w.view (.cls (w.ref c)) name (w.markers c)).forM Registration.run)
    (w.registry r)).result with
  | error e => rfl
  | ok _ =>
    simp only [Action.modify_run, List.append_nil]
    rfl

/-- A declaration that fails: the registrations before the failure end well. -/
structure Interrupted (w : World) (c r : Nat) (name : Value) (made : List Registration)
    (x : Registration) (e : Error) : Prop where
  split : ∃ rest, w.declaration c name = made ++ x :: rest
  ended : ∀ event ∈ (w.registry r).history (made.map .register), event.result = .ok ()
  failed : (x.run ((w.registry r).after (made.map .register))).result = .error e

/-- What a declaration leaves in a registry that held nothing of the class, when it fails: whatever
stood before the failure is pending, nothing else is changed, and unless the first registration was
the one that failed, the class can be declared no more. -/
structure Abandoned (w : World) (c r : Nat) (made : List Registration) (w' : World) : Prop where
  state : w' = { w with
    registries := w.registries.set r ((w.registry r).after (made.map .register)) }
  tables : (w'.registry r).tables = (w.registry r).tables
  entry : (w'.registry r).entry w.view (w.ref c).key =
    ⟨none, made.filterMap (·.column?), made.filterMap (·.relation?)⟩
  others : ∀ k, k ≠ (w.ref c).key →
    (w'.registry r).entry w.view k = (w.registry r).entry w.view k
  unchanged : w' = w ↔ made = []
  repeated : made ≠ [] → ∀ name, ∃ definition key,
    declareTable c name r w' = ⟨.error (.duplicate definition key (.cls (w.ref c))), w', []⟩

theorem declareTable_of_error_run {w : World} {c r : Nat} {name : Value} {e : Error}
    (h : (declareTable c name r w).result = .error e) :
    ∃ registry log,
      (w.declaration c name).forM Registration.run (w.registry r) = ⟨.error e, registry, log⟩ ∧
      declareTable c name r w =
        ⟨.error e, { w with registries := w.registries.set r registry }, log⟩ := by
  rw [declareTable_run] at h ⊢
  rcases ho : (w.declaration c name).forM Registration.run (w.registry r) with
    ⟨_ | _, registry, log⟩
  · rw [ho] at h
    cases h
    exact ⟨registry, log, rfl, rfl⟩
  · rw [ho] at h
    cases h

/-- A class whose first marker is pending cannot be declared. -/
theorem declareTable_repeated {w : World} {c r : Nat} {name : Value} (hr : r < w.registries.length)
    {request : Request} {more : List Registration} {definition : Definition} {key : String}
    (hd : w.declaration c name = ⟨w.view, .cls (w.ref c), request⟩ :: more)
    (hv : Registration.verdict ⟨w.view, .cls (w.ref c), request⟩
        ((w.registry r).entry w.view (w.ref c).key) =
      ⟨.error (.duplicate definition key (.cls (w.ref c))), none, []⟩) :
    declareTable c name r w =
      ⟨.error (.duplicate definition key (.cls (w.ref c))), w, []⟩ := by
  have hx : Registration.run ⟨w.view, .cls (w.ref c), request⟩ (w.registry r) =
      ⟨.error (.duplicate definition key (.cls (w.ref c))), w.registry r, []⟩ := by
    rw [Registration.run_eq, Value.key_cls]
    show (⟨_, _, _⟩ : Outcome Registry Unit) = _
    rw [← ClassRef.key, hv]
    rfl
  have hforM : (w.declaration c name).forM Registration.run (w.registry r) =
      ⟨.error (.duplicate definition key (.cls (w.ref c))), w.registry r, []⟩ := by
    rw [hd]
    exact Action.bind_run_error hx _
  rw [declareTable_run, hforM]
  dsimp only
  rw [set_registry hr]

namespace Interrupted

variable {w : World} {c r : Nat} {name : Value} {made : List Registration} {x : Registration}
  {e : Error}

theorem isOf (h : w.Interrupted c r name made x e) :
    x.IsOf w.view (.cls (w.ref c)) ∧ ∀ y ∈ made, y.IsOf w.view (.cls (w.ref c)) := by
  obtain ⟨rest, hsplit⟩ := h.split
  have hof : ∀ y ∈ made ++ x :: rest, y.IsOf w.view (.cls (w.ref c)) :=
    fun y hy => isOf_declaring (hsplit ▸ hy : y ∈ w.declaration c name)
  exact ⟨hof x (by simp), fun y hy => hof y (List.mem_append_left _ hy)⟩

theorem isTable (h : w.Interrupted c r name made x e) : ∀ y ∈ made, y.isTable = false := by
  obtain ⟨rest, hsplit⟩ := h.split
  exact isTable_of_declaring hsplit

/-- The registration that fails changes nothing. -/
theorem state (h : w.Interrupted c r name made x e) :
    (x.run ((w.registry r).after (made.map .register))).state =
      (w.registry r).after (made.map .register) := by
  rw [Registration.run_of_error h.failed (Registration.not_stranded_of_class h.isOf.1.2)]

section Fresh

variable (hfresh : (w.registry r).entry w.view (w.ref c).key = {})

include hfresh

/-- The registrations before the failure are what is pending of the class. -/
theorem entry (h : w.Interrupted c r name made x e) :
    ((w.registry r).after (made.map .register)).entry w.view (w.ref c).key =
      ⟨none, made.filterMap (·.column?), made.filterMap (·.relation?)⟩ := by
  have hany : made.any (·.isTable) = false := List.any_eq_false.mpr fun y hy => by
    rw [h.isTable y hy]
    exact Bool.false_ne_true
  have htold := Registry.entry_after_toldBy (Value.key_cls _ _) h.isOf.2 hfresh h.ended
  have hcolumns := htold.columns
  have hrelations := htold.relations
  rw [hany, if_neg Bool.false_ne_true] at hcolumns hrelations
  rw [← hcolumns, ← hrelations, ← htold.table?_eq_none.mpr hany]
  rfl

/-- In the registry that held nothing of the class, the first registration ends well. -/
theorem verdict_first {y : Registration} {more : List Registration}
    (h : w.Interrupted c r name (y :: more) x e) : (y.verdict {}).result = .ok () := by
  have hy := h.ended _ List.mem_cons_self
  obtain ⟨objects, entity, request⟩ := y
  obtain ⟨rfl, rfl⟩ := h.isOf.2 _ List.mem_cons_self
  rw [← hfresh, ClassRef.key, ← Registration.result_run (Value.key_cls _ _)]
  exact hy

/-- With what is pending, it does not, in no view of the same objects. -/
theorem verdict_repeated {y : Registration} {more : List Registration}
    (h : w.Interrupted c r name (y :: more) x e) {objects : Objects}
    (ho : Objects.Akin w.view objects) :
    ∃ definition key, Registration.verdict ⟨objects, .cls (w.ref c), y.request⟩
        ⟨none, (y :: more).filterMap (·.column?), (y :: more).filterMap (·.relation?)⟩ =
      ⟨.error (.duplicate definition key (.cls (w.ref c))), none, []⟩ := by
  have hy := h.verdict_first hfresh
  have htable := h.isTable _ List.mem_cons_self
  obtain ⟨_, entity, request⟩ := y
  obtain ⟨rfl, rfl⟩ := h.isOf.2 _ List.mem_cons_self
  obtain ⟨a, ha⟩ := (Registration.of_result_eq_ok hy).resolve_left Bool.false_ne_true
  exact Registration.verdict_repeated ho htable ha more

theorem after_ne {y : Registration} {more : List Registration}
    (h : w.Interrupted c r name (y :: more) x e) :
    (w.registry r).after ((y :: more).map .register) ≠ w.registry r := by
  intro hsame
  have hentry := h.entry hfresh
  rw [hsame, hfresh] at hentry
  obtain ⟨definition, key, hv⟩ := h.verdict_repeated hfresh (World.Akin.refl w).view
  have hy := h.verdict_first hfresh
  obtain ⟨_, entity, request⟩ := y
  obtain ⟨rfl, rfl⟩ := h.isOf.2 _ List.mem_cons_self
  rw [hentry, hv] at hy
  cases hy

end Fresh

theorem abandoned (h : w.Interrupted c r name made x e) (hr : r < w.registries.length)
    (hfresh : (w.registry r).entry w.view (w.ref c).key = {}) :
    w.Abandoned c r made { w with
      registries := w.registries.set r ((w.registry r).after (made.map .register)) } where
  state := rfl
  tables := by rw [registry_set hr, Registry.tables_after h.isTable]
  entry := by rw [registry_set hr, h.entry hfresh]
  others k hk := by
    rw [registry_set hr, Registry.entry_after_of_ne (Value.key_cls _ _) h.isOf.2 hk]
  unchanged := by
    constructor
    · intro hw
      have hregistry := congrArg (World.registry · r) hw
      rw [registry_set hr] at hregistry
      rcases made with _ | ⟨y, more⟩
      · rfl
      · exact absurd hregistry (h.after_ne hfresh)
    · rintro rfl
      rw [List.map_nil, Registry.after_nil, set_registry hr]
  repeated hne name' := by
    obtain ⟨y, more, rfl⟩ := List.exists_cons_of_ne_nil hne
    obtain ⟨rest, hsplit⟩ := h.split
    obtain ⟨definition, key, hv⟩ := h.verdict_repeated hfresh (World.Akin.registries w _).view
    obtain ⟨later, hlater⟩ := exists_declaring_eq_cons hsplit (World.view _) name'
    refine ⟨definition, key, declareTable_repeated (by simpa using hr) hlater ?_⟩
    rw [registry_set hr, Registry.entry_class (World.distinct_view _) w.distinct_view]
    show Registration.verdict _ (((w.registry r).after _).entry w.view (w.ref c).key) = _
    rw [h.entry hfresh]
    exact hv

end Interrupted

/-- A declaration that fails makes the registrations before the failure, and takes none back. -/
theorem declareTable_of_error {w : World} {c r : Nat} {name : Value} {e : Error}
    (hr : r < w.registries.length) (hfresh : (w.registry r).entry w.view (w.ref c).key = {})
    (h : (declareTable c name r w).result = .error e) :
    ∃ made x, w.Interrupted c r name made x e ∧
      w.Abandoned c r made (declareTable c name r w).state := by
  obtain ⟨registry, log, hforM, hrun⟩ := declareTable_of_error_run h
  obtain ⟨made, x, rest, hsplit, hok, hx, hs⟩ :=
    Registration.forM_run_of_error (congrArg Outcome.result hforM)
  have hi : w.Interrupted c r name made x e := ⟨⟨rest, hsplit⟩, hok, hx⟩
  obtain rfl : registry = (w.registry r).after (made.map .register) := by
    rw [← hi.state, ← hs, hforM]
  rw [hrun]
  exact ⟨made, x, hi, hi.abandoned hr hfresh⟩

/-- A class of entities with one column. -/
def petClass : RecordClass where
  name := "Pet"
  qualname := "Pet"
  label := "app.Pet"
  shape := .loose
  slots? := none
  members := [("__module__", .constant (.text "app")),
    ("id", .column ⟨.text "id", none, .bool false, .bool false⟩), ("__doc__", .constant .null)]
  bases := [helpers]
  ancestors := [3, helpers, root]
  layout := root
  room := helpersClass.room
  schema? := none

/-- A world with this class, and with a registry besides the first one. -/
def petWorld : World :=
  { initial with registries := [∅, ∅], classes := initial.classes ++ [petClass] }

theorem declareTable_petWorld_blank :
    (declareTable 3 (.text "  ") 1 petWorld).result = .error (.empty .tableName) := rfl

/-- A blank name leaves the column of the class pending. -/
theorem declareTable_of_error_petWorld :
    (1 < petWorld.registries.length ∧
      (petWorld.registry 1).entry petWorld.view (petWorld.ref 3).key = {} ∧
      (declareTable 3 (.text "  ") 1 petWorld).result = .error (.empty .tableName)) ∧
    ∃ made x, petWorld.Interrupted 3 1 (.text "  ") made x (.empty .tableName) ∧
      petWorld.Abandoned 3 1 made (declareTable 3 (.text "  ") 1 petWorld).state :=
  ⟨⟨by decide, rfl, declareTable_petWorld_blank⟩,
    declareTable_of_error (by decide) rfl declareTable_petWorld_blank⟩

/-- A declaration that failed for its blank name is not forgotten: with a proper name it would have
succeeded before, and fails now. -/
theorem declareTable_not_atomic :
    let failed := declareTable 3 (.text "  ") 1 petWorld
    (petWorld.registry 1).entry petWorld.view (petWorld.ref 3).key = {} ∧
      failed.result = .error (.empty .tableName) ∧
      (declareTable 3 (.text "pets") 1 petWorld).result = .ok () ∧
      (declareTable 3 (.text "pets") 1 failed.state).result =
        .error (.duplicate .propertyKey "id" (.cls (petWorld.ref 3))) :=
  ⟨rfl, rfl, rfl, rfl⟩

end World

end RecordSql
