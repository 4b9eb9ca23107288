import RecordSql.Proofs.World.Entities
import RecordSql.Proofs.World.Registries
import RecordSql.Proofs.World.Reviving
import RecordSql.Proofs.World.Rows

/-! Partial updates: what an UPDATE makes of the object of a row. What the row has is known to the
object: by its variables, or by the fields it tells it was given. An UPDATE takes the object as it
takes the mapping of these properties, so that nothing else is written. -/

namespace RecordSql

open RecordSql.Action

/-! ### What objects tell -/

/-- A member of a class that gives way to the variables of its name. -/
def Member.Yields (m : Member) : Prop := m.isData = false ∧ ∀ i c, m ≠ .constant (.object i c)

namespace World

/-- An object tells its class and its variables if its class has nothing else in their place. -/
theorem tells_of {w : World} {i : Nat} {o : Instance} (hi : w.object? i = some o)
    (hrule : w.applyRule o "__getattribute__" = .ok ())
    (hkind : w.member? o.cls "__class__" = some .classLink)
    (htold : w.member? o.cls "__dict__" = some .ownVariables)
    (hvars : w.hasVariables o.cls = true) : w.Tells i o where
  object := hi
  reads := hrule
  kind := ⟨w.ref o.cls, read_of_readPlain hi hrule (by rw [readPlain, hkind]; rfl)⟩
  vars := ⟨0, read_of_readPlain hi hrule (by
    rw [readPlain, htold]
    dsimp only [Member.isData, ofMember, ofMemberBy]
    rw [hvars]
    rfl)⟩

section Tells

variable {w : World} {i : Nat} {o : Instance} (h : w.Tells i o)

include h

theorem Tells.read_own {name : String} {v : Value}
    (hm : ∀ m, w.member? o.cls name = some m → m.Yields) (hv : o.own? name = some v) :
    w.read i name = .ok v := by
  refine read_of_readPlain h.object h.reads ?_
  rw [readPlain]
  cases hmember : w.member? o.cls name with
  | none =>
    dsimp only
    rw [hv]
    rfl
  | some m =>
    obtain ⟨hdata, hobject⟩ := hm m hmember
    cases m with
    | constant held =>
      have hhook : w.hook? held "__get__" = none := by
        cases held with
        | object i c => exact absurd rfl (hobject i c)
        | _ => rfl
      dsimp only
      rw [ownOrHeld, hhook, hv]
      rfl
    | _ =>
      dsimp only
      rw [hdata, hv]
      rfl

/-- An object that tells a set of texts as what it was given supplies these. -/
theorem Tells.supplied_given {l : List String} {n : Nat} (c : ClassRef)
    (hgiven : w.read i "model_fields_set" = .ok (.set (l.map .text) n)) (feeds : Feeds) :
    ∃ keys, Update.supplied w.view (.object i c) feeds = ⟨.ok keys, feeds, []⟩ ∧
      ∀ key, (keys.any fun k => k.text? = some key) = decide (key ∈ l) := by
  have hread : Source.read w.view (.object i c) "model_fields_set" = .ok (.set (l.map .text) n) :=
    Source.read_eq_ok.mpr (.attr nofun (h.checkClass c) hgiven)
  have hsupplied : Update.supplied w.view (.object i c) = Source.toldKeys w.view (.object i c) :=
    rfl
  obtain ⟨keys, hkeys, hall⟩ := Value.members_texts w.view l n feeds
  refine ⟨keys, ?_, hall⟩
  rw [hsupplied, Source.toldKeys, liftM_fault_bind_run, hread]
  exact hkeys

end Tells

/-! ### Classes that tell what their objects were given -/

/-- An ordinary class whose objects tell their class, and nothing of what was set on them. -/
structure Untold (w : World) (c : Nat) : Prop extends w.Ordinary c where
  kind : w.member? c "__class__" = some .classLink
  untold : w.member? c "model_fields_set" = none
  strict : w.member? c "__getattr__" = none

/-- A field of a validated class that its objects hold as a variable, which they tell. -/
structure Declares (w : World) (c : Nat) (schema : Schema) (name : String) : Prop where
  declared : name ∈ fieldNames schema.fields
  isOpen : isUnderscored name = false
  yields : ∀ m, w.member? c name = some m → m.Yields

/-- A class of which the columns of a table are the markers, if it does not validate, or else fields
that it validates. -/
inductive Recalls (w : World) (c : Nat) (t : Table) : Prop
  | plain (h : w.Untold c)
      (hm : ∀ column ∈ t.columns, ∃ m, w.member? c column.propertyKey = some (.column m))
  | validated {schema : Schema} (h : w.Modelled c schema)
      (hm : ∀ column ∈ t.columns, w.Declares c schema column.propertyKey)

section Untold

variable {w : World} {c i : Nat} {o : Instance} (h : w.Untold c) (hi : w.object? i = some o)
  (ho : o.cls = c)

include h hi ho

theorem Untold.tells : w.Tells i o := by
  subst ho
  exact tells_of hi (h.applyRule (by simp [usualRules]) rfl) h.kind h.told h.spacious

theorem Untold.read_given (hnone : o.own? "model_fields_set" = none) :
    ∃ f, w.read i "model_fields_set" = .error f ∧ f.kind = .attr := by
  have hrule := h.applyRule (show "__getattribute__" ∈ usualRules by decide) ho
  have hplain : w.readPlain o "model_fields_set" =
      .error (.noAttribute (w.cls c).name "model_fields_set") := by
    rw [readPlain, ho, h.untold]
    dsimp only
    rw [hnone]
    rfl
  have hstrict : w.member? o.cls "__getattr__" = none := ho ▸ h.strict
  exact ⟨_, read_of_lacking hi hrule hstrict hplain, rfl⟩

/-- An object stands for a mapping that has the same values for the columns, which are markers of
its class. -/
theorem Untold.standsFor (hnone : o.own? "model_fields_set" = none) {t : Table}
    (hm : ∀ column ∈ t.columns, ∃ m, w.member? c column.propertyKey = some (.column m))
    {es : List (Value × Value)}
    (hes : ∀ column ∈ t.columns, Value.lookup? es column.propertyKey = o.own? column.propertyKey)
    (k : ClassRef) (feeds : Feeds) : Update.StandsFor w.view t feeds (.object i k) es := by
  have htells := h.tells hi ho
  obtain ⟨f, hf, hkind⟩ := h.read_given hi ho hnone
  constructor
  · have hsupplied := htells.supplied_vars k hf hkind feeds
    exact ⟨_, hsupplied, fun column hcolumn => by rw [Update.any_key_dict, hes column hcolumn]; rfl⟩
  · intro column hcolumn v hv
    obtain ⟨m, hmarker⟩ := hm column hcolumn
    have hown : o.own? column.propertyKey = some v := (hes column hcolumn).symm.trans hv
    exact htells.read_source k (ho ▸ hmarker) hown

end Untold

section Modelled

variable {w : World} {c i : Nat} {schema : Schema} {o : Instance} (h : w.Modelled c schema)
  (hi : w.object? i = some o) (ho : o.cls = c)

include h ho

theorem Modelled.applyRule : w.applyRule o "__getattribute__" = .ok () := by
  obtain ⟨r, owner, hr⟩ := h.reads
  rw [World.applyRule, ruleOf, ho, hr]
  rfl

include hi

theorem Modelled.tells : w.Tells i o := by
  subst ho
  exact tells_of hi (h.applyRule rfl) h.kind h.told h.spacious

theorem Modelled.read_given {v : Value} (hv : Assoc.get? o.slots givenSlot = some v) :
    w.read i "model_fields_set" = .ok v := by
  refine read_of_readPlain hi (h.applyRule ho) ?_
  rw [readPlain, ho, h.given]
  dsimp only [Member.isData, ofMember, ofMemberBy]
  rw [slotValue, ho, h.slots givenSlot (by decide)]
  dsimp only
  rw [hv]
  rfl

end Modelled

/-! ### Objects of rows -/

section Objects

variable {w : World} {c : Nat} {t : Table} {l : String} {es : List (Value × Value)}
  {values : List (String × Value)}

/-- The object of a row stands for what it was given, if its class does not validate: nothing else
is among its variables. -/
theorem Untold.standsFor_having (h : w.Untold c)
    (hm : ∀ column ∈ t.columns, ∃ m, w.member? c column.propertyKey = some (.column m))
    (hvalues : ∀ e ∈ values, ∃ m, w.member? c e.1 = some (.column m))
    {held : List (String × Value)} (hheld : List.Forall₂ HeldUnder values held) (nextSerial : Nat)
    (feeds : Feeds) :
    Update.StandsFor (w.having c held nextSerial).view t feeds
      (.object w.objects.length (w.ref c)) (Value.entries held) := by
  have hlater : (w.having c held nextSerial).Untold c :=
    ⟨h.having held nextSerial, h.kind, h.untold, h.strict⟩
  have hobject := w.object?_having c held nextSerial
  have hnone : Value.lookup? (Value.entries held) "model_fields_set" = none := by
    refine Value.lookup?_entries_eq_none fun hmem => ?_
    rw [keys_of_held hheld] at hmem
    obtain ⟨e, he, hkey⟩ := List.mem_map.mp hmem
    obtain ⟨m, hm⟩ := hvalues e he
    rw [hkey, h.untold] at hm
    cases hm
  exact hlater.standsFor hobject rfl hnone hm (fun _ _ => rfl) _ feeds

/-- So does the object of a validated class: it tells just the fields that it was given. -/
theorem Modelled.standsFor {schema : Schema} (h : w.Modelled c schema)
    (hm : ∀ column ∈ t.columns, w.Declares c schema column.propertyKey)
    (hvalues : ∀ e ∈ values, ∃ column ∈ t.columns, column.propertyKey = e.1)
    (hnodup : (values.map (·.1)).Nodup) {source : Value}
    (hs : (assemble c values w).result = .ok source) :
    ∃ held, List.Forall₂ HeldUnder values held ∧ ∀ feeds,
      Update.StandsFor (assemble c values w).state.view t feeds source (Value.entries held) := by
  have hdeclared : ∀ e ∈ values, w.Declares c schema e.1 := by
    intro e he
    obtain ⟨column, hcolumn, hkey⟩ := hvalues e he
    exact hkey ▸ hm column hcolumn
  obtain ⟨hlist, i, o, rfl, hi, ⟨hcls, hvars, n, hgiven⟩⟩ :=
    h.assemble_eq_ok (fun e he => (hdeclared e he).isOpen) hs
  have hlater := h.relisted hlist
  have htells := hlater.tells hi hcls
  have hlookup {e : String × Value} (he : e ∈ values) : values.lookup e.1 = some e.2 := by
    rw [← Value.lookup?_entries_eq]
    exact Value.lookup?_entries hnodup he
  have hown : ∀ e ∈ values, ∃ held : String × Value,
      o.own? held.1 = some held.2 ∧ HeldUnder e held := by
    intro e he
    obtain ⟨v, hv, hheld⟩ := hvars e.1 (hdeclared e he).declared e.2 (hlookup he)
    exact ⟨(e.1, v), hv, rfl, hheld⟩
  obtain ⟨held, hheld⟩ := exists_forall₂_iff.mpr hown
  have hflip : List.Forall₂ (fun p e => o.own? p.1 = some p.2 ∧ HeldUnder e p) held values :=
    List.Forall₂.flip hheld
  obtain ⟨hvariable, hunder⟩ := (List.forall₂_and_left held values).mp hflip
  replace hunder : List.Forall₂ HeldUnder values held := List.Forall₂.flip hunder
  refine ⟨held, hunder, fun feeds => ⟨?_, ?_⟩⟩
  · obtain ⟨keys, hkeys, hall⟩ :=
      htells.supplied_given (w.ref c) (hlater.read_given hi hcls hgiven) feeds
    refine ⟨keys, hkeys, fun column hcolumn => ?_⟩
    have hsome := Value.isSome_lookup?_entries values column.propertyKey
    rw [Value.lookup?_entries_eq] at hsome
    rw [hall, Value.isSome_lookup?_entries, keys_of_held hunder, ← hsome, Bool.eq_iff_iff,
      decide_eq_true_eq, givenNames, List.mem_filter]
    exact and_iff_right (hm column hcolumn).declared
  · intro column hcolumn v hv
    have hne : column.propertyKey ≠ "__slotnames__" := by
      intro heq
      have hopen := (hm column hcolumn).isOpen
      rw [heq] at hopen
      cases hopen
    refine Source.read_eq_ok.mpr (.attr nofun (htells.checkClass _) (htells.read_own ?_
      (hvariable _ (Value.mem_of_lookup?_entries hv))))
    intro m hmember
    rw [hcls, hlist.member? c hne] at hmember
    exact (hm column hcolumn).yields m hmember

end Objects

section Rows

variable {w : World} {c r : Nat} {lead : Value} {config : Config} {t : Table} {l : String}
  {es : List (Value × Value)}

/-- With the object of a row the table of a class is the same. -/
theorem table_mapRow (row : Value) (ht : (w.registry r).table w.view (.cls (w.ref c)) = .ok t) :
    let w' := (mapRow c r lead config row w).state
    (w'.registry r).table w'.view (.cls (w.ref c)) = .ok t := by
  intro w'
  have hkept : w'.registries = w.registries := keeps_mapRow c r lead config row w
  rw [World.registry, hkept]
  exact Registry.table_class w.distinct_view w'.distinct_view ht

/-- The object of a row stands for what is extracted from the row. -/
theorem Recalls.standsFor (hc : w.Recalls c t) (hkeys : t.propertyKeys.Nodup)
    (ht : (w.registry r).table w.view (.cls (w.ref c)) = .ok t)
    (hl : (w.mapper c lead config).Leads t l) {n : Nat} {source : Value}
    (hs : (mapRow c r lead config (.dict es n) w).result = .ok source) :
    ∃ values held, List.Forall₂ (Mapper.Extracts w.view l es) (Mapper.present t l es) values ∧
      List.Forall₂ HeldUnder values held ∧ ∀ feeds, Update.StandsFor
        (mapRow c r lead config (.dict es n) w).state.view t feeds source (Value.entries held) := by
  rw [mapRow_dict ht hl] at hs ⊢
  cases hload : Mapper.loadAll w.view (Mapper.cells t l es) with
  | error e =>
    rw [hload] at hs
    cases hs
  | ok values =>
    rw [hload] at hs
    dsimp only at hs ⊢
    have hextracts := Mapper.loadAll_eq_ok.mp hload
    have hnodup := Mapper.nodup_keys hkeys hextracts
    cases hc with
    | plain h hm =>
      have hmarked := marked_of_extracts hm hextracts
      obtain ⟨held, nextSerial, hheld, hrun⟩ := assemble_ordinary h.toOrdinary hmarked hnodup
      rw [hrun] at hs ⊢
      cases hs
      exact ⟨values, held, hextracts, hheld, h.standsFor_having hm hmarked hheld nextSerial⟩
    | validated h hm =>
      have hvalues : ∀ e ∈ values, ∃ column ∈ t.columns, column.propertyKey = e.1 :=
        fun e he => Mapper.column_of_extracts hextracts he
      obtain ⟨held, hheld, hstands⟩ := h.standsFor hm hvalues hnodup hs
      exact ⟨values, held, hextracts, hheld, hstands⟩

variable {objects : Objects} {values held : List (String × Value)}
  (hkeys : t.propertyKeys.Nodup)
  (hextracts : List.Forall₂ (Mapper.Extracts objects l es) (Mapper.present t l es) values)
  (hheld : List.Forall₂ HeldUnder values held)

include hkeys hextracts hheld

/-- What is written for the extracted values are the columns that the row has. -/
theorem updated_of_held : Update.updated (Value.entries held) t =
    (Mapper.present t l es).filter fun column => !column.excludeFromUpdate.truthy := by
  rw [Update.updated, Mapper.present, List.filter_filter]
  refine List.filter_congr fun column hcolumn => ?_
  rw [Value.isSome_lookup?_entries, keys_of_held hheld]
  congr 1
  cases hraw : Value.lookup? es (l ++ column.name) with
  | none => exact decide_eq_false (Mapper.not_mem_keys hkeys hextracts hcolumn hraw)
  | some raw =>
    have hpresent : column ∈ Mapper.present t l es :=
      List.mem_filter.mpr ⟨hcolumn, by rw [hraw]; rfl⟩
    rw [Mapper.keys_of_extracts hextracts]
    exact decide_eq_true (List.mem_map_of_mem hpresent)

/-- What is held for a column is what the row has for it. -/
theorem supplies_of_held {column : Column} (hcolumn : column ∈ t.columns) {v : Value}
    (hv : Value.lookup? (Value.entries held) column.propertyKey = some v) :
    ∃ loaded, Mapper.Supplies objects l es column loaded ∧ loaded.HeldAs v := by
  obtain ⟨e, he, hkey, hloaded⟩ := exists_of_mem_forall₂ hheld (Value.mem_of_lookup?_entries hv)
  obtain ⟨column', hcolumn', hkey', hsupplies⟩ := exists_of_mem_forall₂ hextracts he
  obtain rfl := List.inj_on_of_nodup_map hkeys (List.mem_filter.mp hcolumn').1 hcolumn
    (hkey'.symm.trans hkey.symm)
  exact ⟨e.2, hsupplies, hloaded⟩

end Rows

end World

namespace Update

/-- What is bound for a column of a row: what is stored for what the object of the row holds for it.
-/
def Rebinds (objects objects' : Objects) (lead : String) (es : List (Value × Value)) (c : Column)
    (p : Value) : Prop :=
  ∃ v held, Mapper.Supplies objects lead es c v ∧ v.HeldAs held ∧
    Column.stored objects' (some c) held = .ok p

/-- The object of a row makes a partial update. It assigns just the columns that the row has and
that are not excluded, in their order, with what is stored for what the row has for them, and is
refused if there are none. -/
theorem writes_mapped_row (calls : List Call) (w : World) (c r : Nat) (lead : Value)
    (config config' : Config) (mode : AliasMode) (operators : Operators) (t : Table) (l : String)
    (hr : w.registry r = Registry.after ∅ calls)
    (ht : (w.registry r).table w.view (.cls (w.ref c)) = .ok t)
    (hl : (w.mapper c lead config).Leads t l) (hc : w.Recalls c t) (es : List (Value × Value))
    (n : Nat) (source : Value)
    (hs : (World.mapRow c r lead config (.dict es n) w).result = .ok source) (feeds : Feeds) :
    let w' := (World.mapRow c r lead config (.dict es n) w).state
    let written := (Mapper.present t l es).filter fun column => !column.excludeFromUpdate.truthy
    let built := (((of (.cls (w.ref c)) config' mode).set source).build
      (w'.context r operators) feeds).result
    (∀ column ∈ t.columns, ∃ b, column.excludeFromUpdate.truth w'.view = .ok b) →
    (∀ column ∈ written, ∀ v held, Mapper.Supplies w.view l es column v → v.HeldAs held →
      ∃ p, Column.stored w'.view (some column) held = .ok p) →
    (built = .error (.nothingToSet t.name) ↔ written = []) ∧
    (written ≠ [] → ∃ params, List.Forall₂ (Rebinds w.view w'.view l es) written params ∧
      built = .ok ⟨"UPDATE " ++ t.name ++ " SET " ++
        commaSeparated (written.map fun column => column.name ++ " = ?"), params⟩) := by
  intro w' written built hflags hstored
  have hkeys : t.propertyKeys.Nodup := by
    rw [hr] at ht
    exact Registry.nodup_propertyKeys ht
  obtain ⟨values, held, hextracts, hheld, hstands⟩ := hc.standsFor hkeys ht hl hs
  have hupdated : updated (Value.entries held) t = written :=
    World.updated_of_held hkeys hextracts hheld
  have hsupplies {column : Column} (hcolumn : column ∈ written) {v : Value}
      (hv : Value.lookup? (Value.entries held) column.propertyKey = some v) :
      ∃ loaded, Mapper.Supplies w.view l es column loaded ∧ loaded.HeldAs v :=
    World.supplies_of_held hkeys hextracts hheld
      (List.mem_filter.mp (List.mem_filter.mp hcolumn).1).1 hv
  have htable : (w'.registry r).table w'.view (.cls (w.ref c)) = .ok t :=
    World.table_mapRow (.dict es n) ht
  have hbuilt : built = (((of (.cls (w.ref c)) config' mode).set
      (.dict (Value.entries held) 0)).build (w'.context r operators) feeds).result :=
    congrArg Outcome.result ((hstands feeds).build (w'.context r operators)
      (of (.cls (w.ref c)) config' mode) htable 0)
  have hmapping := build_unconditional (w'.context r operators) (.cls (w.ref c)) config' mode 0
    feeds htable hflags fun column hcolumn v hv => by
      rw [hupdated] at hcolumn
      obtain ⟨loaded, hloaded, hheld⟩ := hsupplies hcolumn hv
      exact hstored column hcolumn loaded v hloaded hheld
  rw [hupdated, ← hbuilt] at hmapping
  refine ⟨hmapping.1, fun hne => ?_⟩
  obtain ⟨params, hparams, hwritten⟩ := hmapping.2 hne
  have hparams := (List.forall₂_and_left written params).mpr ⟨fun _ hcolumn => hcolumn, hparams⟩
  refine ⟨params, hparams.imp fun column p ⟨hcolumn, v, hv, hp, _⟩ => ?_, hwritten⟩
  obtain ⟨loaded, hloaded, hheld⟩ := hsupplies hcolumn hv
  exact ⟨loaded, v, hloaded, hheld, hp⟩

/-! ### Owners -/

def modelSchema : Schema :=
  ⟨[⟨"id", .required⟩, ⟨"name", .value (.text "nobody")⟩], [], [], [], [], [], none, false⟩

/-- A validated class of owners whose names start with a text. -/
def modelClass : RecordClass where
  name := "Owner"
  qualname := "Owner"
  label := "app.Owner"
  shape := .validated modelSchema.fields "ignore"
  slots? := none
  members := [("__module__", .constant (.text "app"))]
  bases := [World.validator]
  ancestors := [3, World.validator, World.root]
  layout := World.validator
  room := World.validatorClass.room
  schema? := some modelSchema

def modelEntity : Value := .cls (modelClass.ref 3 "ModelMetaclass")

/-- The registrations of their table. -/
def modelCalls : List Call :=
  let model (request : Request) : Call := .register ⟨noObjects, modelEntity, request⟩
  [model (.column ⟨.text "id", .text "id", none, .bool false, .bool false⟩),
    model (.column ⟨.text "name", .text "name", none, .bool false, .bool false⟩),
    model (.table (.text "owners"))]

def modelsWorld : World :=
  { World.initial with
    registries := [Registry.after ∅ modelCalls]
    classes := World.initial.classes ++ [modelClass] }

def modelsTable : Table :=
  ⟨modelEntity, "owners",
    [⟨"id", "id", none, .bool false, .bool false⟩,
      ⟨"name", "name", none, .bool false, .bool false⟩],
    []⟩

theorem modelled_modelsWorld : modelsWorld.Modelled 3 modelSchema := by
  refine ⟨rfl, rfl, rfl, rfl, rfl, ?_, rfl, ⟨_, _, rfl⟩⟩
  simp only [List.forall_mem_cons]
  exact ⟨rfl, rfl, rfl, fun _ h => absurd h List.not_mem_nil⟩

theorem declares_modelsWorld :
    ∀ column ∈ modelsTable.columns, modelsWorld.Declares 3 modelSchema column.propertyKey := by
  have hnone {name : String} (hname : modelsWorld.member? 3 name = none) :
      ∀ m, modelsWorld.member? 3 name = some m → m.Yields := by
    intro m hm
    rw [hname] at hm
    cases hm
  simp only [modelsTable, List.forall_mem_cons]
  exact ⟨⟨.head _, rfl, hnone rfl⟩, ⟨.tail _ (.head _), rfl, hnone rfl⟩,
    fun _ h => absurd h List.not_mem_nil⟩

/-- What an UPDATE makes of the owner that a row becomes. -/
def writtenOwner (w : World) (es : List (Value × Value)) : Except Error Statement :=
  let mapped := World.mapRow 3 0 .null .usual (.dict es) w
  (((of (.cls (w.ref 3)) .usual .none).set (.object 0 (w.ref 3))).build
    (mapped.state.context 0 .builtin) []).result

/-- Of an owner the key is written, whose name the row does not have, be it that the class starts
names with a text. A row that has neither is refused. -/
theorem writes_mapped_row_owners :
    let id : Column := ⟨"id", "id", none, .bool false, .bool false⟩
    let plain := World.ownersWorld (.relation World.petsMarker)
    let later (w : World) := (World.mapRow 3 0 .null .usual (.dict World.ownerRow) w).state
    (∃ p, Rebinds plain.view (later plain).view "owners_" World.ownerRow id p ∧
      writtenOwner plain World.ownerRow = .ok ⟨"UPDATE owners SET id = ?", [p]⟩) ∧
    (∃ p, Rebinds modelsWorld.view (later modelsWorld).view "owners_" World.ownerRow id p ∧
      writtenOwner modelsWorld World.ownerRow = .ok ⟨"UPDATE owners SET id = ?", [p]⟩) ∧
    writtenOwner modelsWorld [] = .error (.nothingToSet "owners") := by
  intro id plain later
  have hflags {objects : Objects} : ∀ column ∈ World.ownersTable.columns,
      ∃ b, column.excludeFromUpdate.truth objects = .ok b := by
    simp only [World.ownersTable, List.forall_mem_cons]
    exact ⟨⟨_, rfl⟩, ⟨_, rfl⟩, fun _ h => absurd h List.not_mem_nil⟩
  have hstored {objects objects' : Objects} : ∀ column ∈ [id], ∀ v held,
      Mapper.Supplies objects "owners_" World.ownerRow column v → v.HeldAs held →
        ∃ p, Column.stored objects' (some column) held = .ok p := by
    rintro column hcolumn v held ⟨raw, hraw, hv⟩ ⟨n, rfl⟩
    obtain rfl := List.mem_singleton.mp hcolumn
    cases hraw
    cases hv
    exact ⟨.int 7, rfl⟩
  have hsole {objects objects' : Objects} {params : List Value} {built : Except Error Statement}
      (hparams : List.Forall₂ (Rebinds objects objects' "owners_" World.ownerRow) [id] params)
      (hbuilt : built = .ok ⟨"UPDATE owners SET id = ?", params⟩) :
      ∃ p, Rebinds objects objects' "owners_" World.ownerRow id p ∧
        built = .ok ⟨"UPDATE owners SET id = ?", [p]⟩ := by
    obtain ⟨p, _, hp, hnil, rfl⟩ := List.forall₂_cons_left_iff.mp hparams
    cases hnil
    exact ⟨p, hp, hbuilt⟩
  refine ⟨?_, ?_⟩
  · have huntold : plain.Untold 3 := ⟨World.ordinary_ownersWorld, rfl, rfl, rfl⟩
    have hmarkers : ∀ column ∈ World.ownersTable.columns,
        ∃ m, plain.member? 3 column.propertyKey = some (.column m) := by
      simp only [World.ownersTable, List.forall_mem_cons]
      exact ⟨⟨_, rfl⟩, ⟨_, rfl⟩, fun _ h => absurd h List.not_mem_nil⟩
    have htable : (plain.registry 0).table plain.view (.cls (plain.ref 3)) =
        .ok World.ownersTable := rfl
    have hmapped : (World.mapRow 3 0 .null .usual (.dict World.ownerRow) plain).result =
        .ok (.object 0 (plain.ref 3)) := rfl
    obtain ⟨-, hwritten⟩ := writes_mapped_row World.ownerCalls plain 3 0 .null .usual .usual .none
      .builtin World.ownersTable "owners_" rfl htable (.inl ⟨rfl, rfl⟩) (.plain huntold hmarkers)
      World.ownerRow 0 _ hmapped [] hflags hstored
    obtain ⟨params, hparams, hbuilt⟩ := hwritten (List.cons_ne_nil id [])
    exact hsole hparams hbuilt
  · have htable : (modelsWorld.registry 0).table modelsWorld.view (.cls (modelsWorld.ref 3)) =
        .ok modelsTable := rfl
    have hmapped (es : List (Value × Value)) := writes_mapped_row modelCalls modelsWorld 3 0 .null
      .usual .usual .none .builtin modelsTable "owners_" rfl htable (.inl ⟨rfl, rfl⟩)
      (.validated modelled_modelsWorld declares_modelsWorld) es 0 (.object 0 (modelsWorld.ref 3))
    obtain ⟨-, hwritten⟩ := hmapped World.ownerRow rfl [] hflags hstored
    obtain ⟨params, hparams, hbuilt⟩ := hwritten (List.cons_ne_nil id [])
    obtain ⟨hrefused, -⟩ := hmapped [] rfl [] hflags fun _ h => absurd h List.not_mem_nil
    exact ⟨hsole hparams hbuilt, hrefused.mpr rfl⟩

/-- A class of owners that has a list of texts under the name by which validated objects tell the
fields they were given. -/
def listingClass : RecordClass :=
  { World.ownerClass (.relation World.petsMarker) with
    members := Assoc.put (World.ownerClass (.relation World.petsMarker)).members
      "model_fields_set" (.constant (.list [.text "name"])) }

def listingWorld : World :=
  (World.declareTable 3 (.text "owners") 0
    { World.initial with classes := World.initial.classes ++ [listingClass] }).state

/-- What is found on the class under that name is taken for what the object was given: null is
written for the name, which the row does not have, and nothing for the key, which it has. -/
theorem writes_listed_columns :
    let w := listingWorld
    (w.registry 0).table w.view (.cls (w.ref 3)) = .ok World.ownersTable ∧
      (w.owner? 3 "__init__").map (·.1) = some World.root ∧
      (∀ column ∈ World.ownersTable.columns, column.propertyKey ≠ "model_fields_set" ∧
        ∃ m, w.member? 3 column.propertyKey = some (.column m)) ∧
      Mapper.present World.ownersTable "owners_" World.ownerRow =
        [⟨"id", "id", none, .bool false, .bool false⟩] ∧
      (World.mapRow 3 0 .null .usual (.dict World.ownerRow) w).result =
        .ok (.object 0 (w.ref 3)) ∧
      writtenOwner w World.ownerRow = .ok ⟨"UPDATE owners SET name = ?", [.null]⟩ := by
  refine ⟨rfl, rfl, ?_, rfl, rfl, rfl⟩
  simp only [World.ownersTable, List.forall_mem_cons]
  exact ⟨⟨by decide, _, rfl⟩, ⟨by decide, _, rfl⟩, fun _ h => absurd h List.not_mem_nil⟩

end Update

end RecordSql
