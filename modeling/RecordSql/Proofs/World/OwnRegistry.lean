import RecordSql.Proofs.World.Growth
import RecordSql.Proofs.World.Making

/-! The registry that the helpers of an entity use. It is the one that the last declaration of the
class named, as long as that holds a table; else the first registry stands in for it. While it holds
one, nothing that a helper does depends on what the first registry holds. -/

namespace RecordSql

open RecordSql.Action (Alongside)

/-! ### Rows -/

/-- A transformer that asks objects for no text when a value is loaded. -/
def Transformer.Discreet (t : Transformer) : Prop :=
  ∀ objects shown told v, t.load (objects.worded shown told) v = t.load objects v

/-- A table whose values are loaded without a look at the texts of objects. -/
def Table.Discreet (t : Table) : Prop :=
  ∀ c ∈ t.columns, ∀ f, c.transformer = some f → f.Discreet

theorem Column.loaded_worded {t : Table} (ht : t.Discreet) {c : Column} (hc : c ∈ t.columns)
    (objects : Objects) (shown : ObjectText) (told : Nat → Except Fault String) (v : Value) :
    c.loaded (objects.worded shown told) v = c.loaded objects v := by
  unfold loaded
  cases hf : c.transformer with
  | none => rfl
  | some f =>
    dsimp only
    rw [ht c hc f hf]

/-- A row is read without a look at the texts of objects. -/
theorem Mapper.extract_worded {m : Mapper} (hm : m.lead.Objectless) {registry : Registry}
    {objects : Objects} (ht : ∀ t, registry.table objects m.entity = .ok t → t.Discreet)
    (shown : ObjectText) (told : Nat → Except Fault String) (row : Value) :
    m.extract registry (objects.worded shown told) row = m.extract registry objects row := by
  refine Action.liftM_bind_congr fun t hfound => ?_
  have hlead : m.leadFor (objects.worded shown told) t = m.leadFor objects t := by
    rw [leadFor, hm.written (objects.worded shown told) objects, leadFor]
  have hcells (lead : String) (l : List Column) (hl : ∀ c ∈ l, c ∈ t.columns) :
      l.mapM (cell (objects.worded shown told) lead row) = l.mapM (cell objects lead row) := by
    induction l with
    | nil => rfl
    | cons c l ih =>
      have hcell : cell (objects.worded shown told) lead row c = cell objects lead row c := by
        unfold cell
        simp only [Column.loaded_worded (ht t hfound) (hl c List.mem_cons_self),
          (Objects.agree_worded objects shown told).holds]
      rw [List.mapM_cons, List.mapM_cons, hcell,
        ih fun c' hc' => hl c' (List.mem_cons_of_mem c hc')]
  rw [hlead]
  refine bind_congr fun lead => ?_
  rw [hcells lead _ fun _ h => h]

/-- The outcome in the world with other registries. -/
def Outcome.upon {α : Type} (o : Outcome World α) (registries : List Registry) :
    Outcome World α := ⟨o.result, o.state.upon registries, o.log⟩

/-- Whether a member is no marker, or one that is named by a text. -/
def Member.isNamedByText : Member → Bool
  | column m => m.name.text?.isSome
  | relation m => m.targetTable.text?.isSome
  | _ => true

theorem Member.objectless_of_isNamedByText {m : Member} (h : m.isNamedByText = true) :
    m.Objectless := by
  have htext {v : Value} (hv : v.text?.isSome = true) : v.Objectless := by
    cases v with
    | text s => exact Value.objectless_text s
    | _ => cases hv
  cases m with
  | column _ | relation _ => exact htext h
  | _ => trivial

namespace World

section Rows

variable {registries : List Registry} {p : World → Prop} {c r : Nat}

/-- What is drawn from the feeds. -/
theorem alongside_drawing {α : Type} (hp : Lasting p) {x y : Action Feeds α} (h : x = y) :
    Alongside (World.upon · registries) p (drawing x) (drawing y) fun _ => p := by
  subst h
  exact fun w hw => ⟨rfl, fun _ _ => hp.held w _ _ _ hw⟩

/-- A property of worlds in which a class stays what it is, and among other registries has the same
one, with a discreet table. -/
structure Served (registries : List Registry) (p : World → Prop) (c r : Nat) : Prop
    extends Lasting p where
  kind : ∀ w w', p w → p w' → w.Loose c → w'.Loose c
  registry : ∀ w, p w → (w.upon registries).registry r = w.registry r
  discreet : ∀ w, p w → ∀ t, w.tableIn? w.view c r = some t → t.Discreet

/-- The object of a row is made in the same way. -/
theorem alongside_mapRow (hp : Served registries p c r) {lead : Value} (hl : lead.Objectless)
    (config : Config) (row : Value) :
    Alongside (World.upon · registries) p (mapRow c r lead config row)
      (mapRow c r lead config row) fun _ => p := by
  refine .getBind fun w hw => .bind (q := fun _ => p) (.getBind fun w' hw' => ?_) fun values =>
    alongside_assemble hp.toLasting hp.kind values
  obtain ⟨rfl, -⟩ := hw'
  refine (alongside_drawing hp.toLasting ?_).mono (fun _ h => h.2.2) fun _ _ h => h
  rw [hp.registry w' hw, upon_view]
  refine (Mapper.extract_worded hl (fun t ht => ?_) _ _ row).symm
  exact hp.discreet w' hw t (Registry.table_class_eq_ok.mp ht)

theorem alongside_mapDrawn (hp : Served registries p c r) {lead : Value} (hl : lead.Objectless)
    (config : Config) (rows : Value) (drawn : Value × List Value) :
    Alongside (World.upon · registries) p (mapDrawn c r lead config rows drawn)
      (mapDrawn c r lead config rows drawn) fun _ => p :=
  .bind (alongside_drawing hp.toLasting rfl) fun _ => alongside_mapRow hp hl config drawn.1

/-- The objects of several rows are. -/
theorem alongside_mapRows (hp : Served registries p c r) {lead : Value} (hl : lead.Objectless)
    (config : Config) (rows : Value) :
    Alongside (World.upon · registries) p (mapRows c r lead config rows)
      (mapRows c r lead config rows) fun _ => p := by
  refine .getBind fun w hw => .bind (q := fun _ => p) ?_ fun items =>
    .bind (.mapM (fun drawn => alongside_mapDrawn hp hl config rows drawn) _) fun _ => .pure _
  refine (alongside_drawing hp.toLasting ?_).mono (fun _ h => h.2) fun _ _ h => h
  exact ((agree_upon w registries).upcoming rows).symm

end Rows

/-! ### The worlds of a run -/

/-- Worlds with the same registries, where classes have got at most further constants. -/
structure Enriched (w w' : World) : Prop where
  registries : w'.registries = w.registries
  cls : ∀ c, ∃ members, w'.cls c = { w.cls c with members } ∧ ∀ name m,
    Assoc.get? members name = some m →
      Assoc.get? (w.cls c).members name = some m ∨ ∃ v, m = .constant v

namespace Enriched

theorem refl (w : World) : Enriched w w :=
  ⟨rfl, fun c => ⟨(w.cls c).members, rfl, fun _ _ h => .inl h⟩⟩

variable {w w' : World} (h : Enriched w w')

include h

theorem registry (r : Nat) : w'.registry r = w.registry r := by
  rw [World.registry, h.registries, World.registry]

theorem isValidated (c : Nat) : w'.isValidated c = w.isValidated c := by
  obtain ⟨members, hc, -⟩ := h.cls c
  rw [World.isValidated, World.ancestors, hc, World.isValidated, World.ancestors]

theorem loose {c : Nat} : w'.Loose c ↔ w.Loose c := by
  obtain ⟨members, hc, -⟩ := h.cls c
  rw [Loose, h.isValidated, hc, Loose]

theorem ref (c : Nat) : w'.ref c = w.ref c := by
  obtain ⟨members, hc, -⟩ := h.cls c
  rw [World.ref, maker, h.isValidated, hc, World.ref, maker, RecordClass.ref, RecordClass.ref]

theorem named (hw : w.Named) : w'.Named := by
  intro c name m hm
  obtain ⟨members, hc, hmembers⟩ := h.cls c
  rw [hc] at hm
  rcases hmembers name m hm with hm | ⟨v, rfl⟩
  · exact hw c name m hm
  · trivial

theorem tableIn? (c r : Nat) : w'.tableIn? w'.view c r = w.tableIn? w.view c r := by
  unfold World.tableIn?
  rw [h.registry, h.ref]
  exact Holdings.get?_class w'.distinct_view w.distinct_view _ _

/-- A class gets a constant. -/
theorem put (c : Nat) (name : String) (v : Value) (n : Nat) :
    let members := Assoc.put (w'.cls c).members name (.constant v)
    Enriched w { w' with
      classes := w'.classes.set c { w'.cls c with members }, nextSerial := n } := by
  refine ⟨h.registries, fun d => ?_⟩
  obtain ⟨members, hd, hmembers⟩ := h.cls d
  by_cases hdc : d = c ∧ c < w'.classes.length
  · refine ⟨Assoc.put members name (.constant v), ?_, fun name' m hm => ?_⟩
    · refine (cls_set w' c d _).trans ((if_pos hdc).trans ?_)
      rw [← hdc.1, hd]
    · rw [Assoc.get?_put] at hm
      split at hm
      · cases hm
        exact .inr ⟨v, rfl⟩
      · exact hmembers name' m hm
  · exact ⟨members, ((cls_set w' c d _).trans (if_neg hdc)).trans hd, hmembers⟩

/-- Classes get the lists of their slots. -/
theorem keepSlots (classes : List Nat) : Enriched w (w'.keepSlots classes) := by
  unfold World.keepSlots
  dsimp only
  generalize w'.declaredSlots = slots
  induction classes generalizing w' with
  | nil => exact h
  | cons c classes ih =>
    refine ih ?_
    dsimp only
    split
    · exact h
    · exact h.put c _ _ _

end Enriched

/-- What making objects leads to. -/
theorem lasting_enriched {w : World} (hw : w.Named) : Lasting w.Enriched where
  named := fun _ h => h.named hw
  held := fun _ _ _ _ h => ⟨h.registries, h.cls⟩
  slots := fun _ classes h => h.keepSlots classes

theorem served_enriched {w : World} (hw : w.Named) {registries : List Registry} {c r : Nat}
    (hr : (w.upon registries).registry r = w.registry r)
    (ht : ∀ t, w.tableIn? w.view c r = some t → t.Discreet) :
    Served registries w.Enriched c r where
  toLasting := lasting_enriched hw
  kind := fun _ _ h h' hl => h'.loose.mpr (h.loose.mp hl)
  registry := fun _ h => hr.trans (h.registry r).symm
  discreet := fun _ h t hv => ht t ((h.tableIn? c r).symm.trans hv)

/-! ### The registry of a class -/

/-- A class whose registry is the one of a number. -/
def Owns (w : World) (c r : Nat) : Prop := w.member? c registryAttribute = some (.registry r)

/-- A declaration that ends well makes its registry the one of the class. -/
theorem owns_of_declareTable {w w' : World} {c r : Nat} {name : Value}
    (hlt : c < w.classes.length) (hc : (w.ancestors c).head? = some c)
    (hd : (declareTable c name r w).result = .ok ())
    (hw : w'.classes = (declareTable c name r w).state.classes) : w'.Owns c r := by
  rw [declareTable_run] at hd hw
  rcases ho : (w.declaration c name).forM Registration.run (w.registry r) with ⟨_ | _, s, log⟩
  · rw [ho] at hd
    cases hd
  rw [ho] at hw
  have hcls : w'.cls c = { w.cls c with
      members := Assoc.put (w.cls c).members registryAttribute (.registry r) } := by
    rw [World.cls, hw]
    exact (cls_set w c c _).trans (if_pos ⟨rfl, hlt⟩)
  obtain ⟨rest, hrest⟩ := List.head?_eq_some_iff.mp hc
  rw [Owns, member?, World.ancestors, hcls]
  show (w.ancestors c).findSome? _ = _
  rw [hrest, List.findSome?_cons, hcls, Assoc.get?_put, if_pos rfl]

theorem Owns.registryOf {w : World} {c r : Nat} (h : w.Owns c r) (objects : Objects) :
    w.registryOf objects c = .ok (.inl (if (w.registry r).size = 0 then 0 else r)) := by
  rw [World.registryOf, h]

/-! ### Helpers -/

/-- The helpers of a class end in the same way in the world with other registries, and leave these
as they are. -/
structure SameHelp (w : World) (registries : List Registry) (c : Nat) : Prop where
  toModel : ∀ lead row : Value, lead.Objectless →
    World.toModel c lead row (w.upon registries) = (World.toModel c lead row w).upon registries
  toModels : ∀ lead rows : Value, lead.Objectless →
    World.toModels c lead rows (w.upon registries) = (World.toModels c lead rows w).upon registries
  toPlain : ∀ i t, (w.object? i).map (·.cls) = some c →
    (w.upon registries).toPlain (.object i t) = w.toPlain (.object i t)
  clone : ∀ i t, (w.object? i).map (·.cls) = some c → w.Loose c →
    World.clone (.object i t) (w.upon registries) = (World.clone (.object i t) w).upon registries
  text : ∀ text running o, o.cls = c →
    (w.upon registries).entityText? text running o = w.entityText? text running o

section Helpers

variable {w : World} {registries : List Registry} {c r : Nat}

theorem upon_requireClassHelper (hw : w.Named) :
    (w.upon registries).requireClassHelper = w.requireClassHelper := by
  funext c name
  unfold requireClassHelper
  simp only [readClass_upon registries hw, upon_rules]
  rfl

theorem upon_plainOf {objects objects' : Objects} (h : Objects.Akin objects objects') :
    (w.upon registries).plainOf objects' = w.plainOf objects := by
  funext t o
  unfold plainOf
  simp only [upon_readInstance, h.contains]

theorem upon_helped (i : Nat) (t : ClassRef) (name : String) :
    (w.upon registries).helped (.object i t) name = w.helped (.object i t) name := by
  unfold helped
  rw [upon_requireHelper]
  rfl

theorem upon_tableIn? {objects objects' : Objects} (h : Objects.Agree objects objects') (c : Nat)
    (hr : (w.upon registries).registry r = w.registry r) :
    (w.upon registries).tableIn? objects' c r = w.tableIn? objects c r := by
  unfold tableIn? Registry.tableAt? Holdings.get? Holding.isFor
  simp only [hr, h.key_eq]
  rfl

theorem helped_eq_ok {i : Nat} {t : ClassRef} {name : String} {o : Instance}
    (h : w.helped (.object i t) name = .ok o) : w.object? i = some o := by
  unfold helped at h
  dsimp only at h
  cases hi : w.object? i with
  | none =>
    rw [hi] at h
    cases h
  | some o' =>
    rw [hi] at h
    obtain ⟨_, -, rfl⟩ := map_eq_ok.mp h
    rfl

/-- A class that owns a registry with tables, which is the same one among other registries. -/
structure Seated (w : World) (registries : List Registry) (c r : Nat) : Prop where
  owns : w.Owns c r
  size : (w.registry r).size ≠ 0
  registry : (w.upon registries).registry r = w.registry r

variable (h : w.Seated registries c r)

include h

theorem Seated.registryOf (objects : Objects) : w.registryOf objects c = .ok (.inl r) := by
  rw [h.owns.registryOf, if_neg h.size]

theorem Seated.usableRegistry (objects : Objects) (function : String) :
    w.usableRegistry objects c function = .ok r := by
  rw [World.usableRegistry, h.registryOf]
  rfl

theorem Seated.upon : (w.upon registries).Seated w.registries c r where
  owns := h.owns
  size := by rw [h.registry]; exact h.size
  registry := h.registry.symm

theorem Seated.toPlain {i : Nat} (t : ClassRef) (hi : (w.object? i).map (·.cls) = some c) :
    (w.upon registries).toPlain (.object i t) = w.toPlain (.object i t) := by
  unfold World.toPlain tableRegistry
  rw [upon_helped]
  refine bind_congr_ok fun o ho => ?_
  obtain rfl : o.cls = c := by
    rw [helped_eq_ok (mapError_eq_ok.mp ho)] at hi
    exact Option.some.inj hi
  rw [h.usableRegistry, h.upon.usableRegistry]
  refine bind_congr_ok fun r' hr' => ?_
  obtain rfl : r = r' := Except.ok.inj hr'
  rw [upon_tableIn? (agree_upon w registries) _ h.registry,
    upon_plainOf (agree_upon w registries).toAkin]
  cases w.tableIn? w.view o.cls r <;> rfl

theorem Seated.text (text : ObjectText) (running : Running) {o : Instance} (ho : o.cls = c) :
    (w.upon registries).entityText? text running o = w.entityText? text running o := by
  subst ho
  have hview (key : ObjectKey) : (w.upon registries).viewWith text (text []) key =
      w.viewWith text (text []) key := by
    unfold viewWith
    rw [upon_read, upon_rules, upon_items?]
  unfold entityText?
  have hsame (objects : Objects) : Objects.Agree objects objects :=
    objects.agree_worded objects.shown objects.told
  simp only [hview, h.usableRegistry, h.upon.usableRegistry, ok_bind, upon_requireHelper,
    upon_tableIn? (hsame _) _ h.registry, upon_plainOf (hsame _).toAkin]
  rfl

end Helpers

/-! ### Runs of helpers -/

section Runs

variable {w : World} {registries : List Registry} {c r : Nat}

/-- A class with a discreet table in a registry of its own, which others leave as it is. -/
structure Secluded (w : World) (registries : List Registry) (c r : Nat) : Prop
    extends Seated w registries c r where
  named : w.Named
  discreet : ∀ t, w.tableIn? w.view c r = some t → t.Discreet

variable (h : w.Secluded registries c r)

include h

theorem Secluded.served : Served registries w.Enriched c r :=
  served_enriched h.named h.registry h.discreet

theorem Secluded.toModel {lead : Value} (hl : lead.Objectless) (row : Value) :
    World.toModel c lead row (w.upon registries) =
      (World.toModel c lead row w).upon registries := by
  have hrun : Alongside (World.upon · registries) (· = w) (World.toModel c lead row)
      (World.toModel c lead row) fun _ => w.Enriched := by
    refine .getBind fun v hv => ?_
    obtain rfl := hv
    unfold tableRegistry
    rw [upon_requireClassHelper h.named, h.usableRegistry, h.upon.usableRegistry]
    refine .bind (.lifted _) fun _ => .bind (q := fun r' s => r' = r ∧ v.Enriched s)
      (.result fun r' s hr hs => ⟨(Except.ok.inj hr).symm, hs.1 ▸ .refl v⟩) fun r' => .given ?_
    rintro rfl
    exact alongside_mapRow h.served hl .usual row
  exact (hrun w rfl).1

theorem Secluded.toModels {lead : Value} (hl : lead.Objectless) (rows : Value) :
    World.toModels c lead rows (w.upon registries) =
      (World.toModels c lead rows w).upon registries := by
  have hrun : Alongside (World.upon · registries) (· = w) (World.toModels c lead rows)
      (World.toModels c lead rows) fun _ => w.Enriched := by
    refine .getBind fun v hv => ?_
    obtain rfl := hv
    rw [upon_requireClassHelper h.named, h.registryOf, h.upon.registryOf]
    refine .bind (.lifted _) fun _ => .bind (q := fun r' s => r' = .inl r ∧ v.Enriched s)
      (.result fun r' s hr hs => ⟨(Except.ok.inj hr).symm, hs.1 ▸ .refl v⟩) fun r' => .given ?_
    rintro rfl
    exact alongside_mapRows h.served hl .usual rows
  exact (hrun w rfl).1

theorem Secluded.clone {i : Nat} (t : ClassRef) (hi : (w.object? i).map (·.cls) = some c)
    (hl : w.Loose c) :
    World.clone (.object i t) (w.upon registries) =
      (World.clone (.object i t) w).upon registries := by
  have hp := h.served
  have hrun : Alongside (World.upon · registries) (· = w) (World.clone (.object i t))
      (World.clone (.object i t)) fun _ => w.Enriched := by
    refine .getBind fun v hv => ?_
    obtain rfl := hv
    rw [upon_helped, h.toSeated.toPlain t hi]
    refine .bind (q := fun o s => o.cls = c ∧ v.Enriched s)
      (.result fun o s ho hs => ⟨?_, hs.1 ▸ .refl v⟩) fun o => .given ?_
    · rw [helped_eq_ok ho] at hi
      exact Option.some.inj hi
    rintro rfl
    have hloose (w' : World) (hw' : v.Enriched w') : w'.Loose o.cls := hw'.loose.mpr hl
    refine .bind (alongside_construct hp.toLasting hloose) fun o' => .given fun ho' =>
      .bind (alongside_added hp.toLasting o') fun copy => ?_
    rintro w' ⟨i, t, o'', rfl, ho'', hc, hw'⟩
    refine Alongside.bind (t := fun _ => v.Enriched)
      (q := fun _ w => (∃ o', w.object? i = some o' ∧ o'.cls = o.cls) ∧ v.Enriched w)
      (.ofExcept fun _ _ _ h => h)
      (fun plain => .bind (.forM (fun e => alongside_setAttr hp.toLasting hloose _ _ _) _)
        fun _ => .done fun _ h => h.2) w' ⟨⟨o'', ho'', hc.trans ho'⟩, hw'⟩
  exact (hrun w rfl).1

end Runs

/-- The helpers of a class use the registry that its last declaration named while that holds a
table, and the first one else. In the first case nothing depends on what the first registry
holds. -/
theorem helpers_use_own_registry {w₀ w : World} {c r : Nat} {name : Value}
    (hlt : c < w₀.classes.length) (hc : (w₀.ancestors c).head? = some c) (hr : r ≠ 0)
    (hd : (declareTable c name r w₀).result = .ok ())
    (hw : w.classes = (declareTable c name r w₀).state.classes) :
    (∀ objects, w.registryOf objects c = .ok (.inl (if (w.registry r).size = 0 then 0 else r))) ∧
    ((w.registry r).size ≠ 0 → w.Named → (∀ t, w.tableIn? w.view c r = some t → t.Discreet) →
      ∀ first, w.SameHelp (w.registries.set 0 first) c) := by
  have howns := owns_of_declareTable hlt hc hd hw
  refine ⟨howns.registryOf, fun hsize hnamed ht first => ?_⟩
  have h : w.Secluded (w.registries.set 0 first) c r :=
    { owns := howns
      size := hsize
      registry := registry_set_of_ne hr first
      named := hnamed
      discreet := ht }
  exact
    { toModel := fun _ row hl => h.toModel hl row
      toModels := fun _ rows hl => h.toModels hl rows
      toPlain := fun _ t hi => h.toPlain t hi
      clone := fun _ t hi hl => h.clone t hi hl
      text := fun text running _ ho => h.text text running ho }

theorem named_petsWorld : petsWorld.Named := by
  have hall : (rootClass :: petsWorld.classes).all
      (fun cls => cls.members.all fun e => e.2.isNamedByText) = true := rfl
  intro c name m hm
  have hc : petsWorld.cls c ∈ rootClass :: petsWorld.classes := by
    rw [World.cls, List.getD_eq_getElem?_getD]
    cases hfound : petsWorld.classes[c]? with
    | none => exact List.mem_cons_self
    | some cls => exact List.mem_cons_of_mem _ (List.mem_of_getElem? hfound)
  exact Member.objectless_of_isNamedByText
    (List.all_eq_true.mp (List.all_eq_true.mp hall _ hc) _ (Assoc.mem_of_get? hm))

/-- Pets have a registry of their own, beside which the first one may hold another table of them. -/
theorem helpers_use_own_registry_petsWorld :
    let first := petsWorld.registry 1
    (3 < petWorld.classes.length ∧ (petWorld.ancestors 3).head? = some 3 ∧ 1 ≠ 0 ∧
      (declareTable 3 (.text "pets") 1 petWorld).result = .ok () ∧
      petsWorld.classes = (declareTable 3 (.text "pets") 1 petWorld).state.classes) ∧
    (petsWorld.registry 1).size ≠ 0 ∧ petsWorld.Named ∧
    petsWorld.SameHelp (petsWorld.registries.set 0 first) 3 := by
  intro first
  have hhelp := @helpers_use_own_registry petWorld petsWorld 3 1 (.text "pets")
    (by decide) rfl (by decide) rfl rfl
  refine ⟨⟨by decide, rfl, by decide, rfl, rfl⟩, by decide, named_petsWorld,
    hhelp.2 (by decide) named_petsWorld (fun t ht => ?_) first⟩
  obtain rfl : petTable = t := Option.some.inj ht
  intro column hcolumn f hf
  obtain rfl := List.mem_singleton.mp hcolumn
  cases hf

/-- Once the registry of pets is cleared, the first one decides whether a row is a pet. -/
theorem helpers_use_first_registry :
    let cleared := (withRegistry 1 Registry.clear petsWorld).state
    let row : Value := .dict [(.text "pets_id", .int 1)]
    (World.toModel 3 .null row cleared).result =
      .error (.notRegistered (.cls (petWorld.ref 3))) ∧
    (World.toModel 3 .null row
        (cleared.upon (cleared.registries.set 0 (petsWorld.registry 1)))).result =
      .ok (.object 0 (petWorld.ref 3)) := ⟨rfl, rfl⟩

end World

end RecordSql
