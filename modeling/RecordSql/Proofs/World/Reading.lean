import RecordSql.World.Mapping

/-! What is read of objects and classes does not depend on what is registered: neither on the
registries, nor on which of them is the registry of a class, unless that very attribute is read. -/

namespace RecordSql

open World

/-- Worlds that differ at most in what their registries hold, and in which of them is the registry
of a class. -/
structure World.Akin (w w' : World) : Prop where
  objects : w'.objects = w.objects
  feeds : w'.feeds = w.feeds
  names : w'.names = w.names
  nextSerial : w'.nextSerial = w.nextSerial
  length : w'.classes.length = w.classes.length
  cls : ∀ c, ∃ members, w'.cls c = { w.cls c with members } ∧
    ∀ name, name ≠ registryAttribute →
      Assoc.get? members name = Assoc.get? (w.cls c).members name

namespace World.Akin

variable {w w' : World}

theorem refl (w : World) : Akin w w :=
  ⟨rfl, rfl, rfl, rfl, rfl, fun c => ⟨(w.cls c).members, rfl, fun _ _ => rfl⟩⟩

theorem trans {w'' : World} (h : Akin w w') (h' : Akin w' w'') : Akin w w'' where
  objects := h'.objects.trans h.objects
  feeds := h'.feeds.trans h.feeds
  names := h'.names.trans h.names
  nextSerial := h'.nextSerial.trans h.nextSerial
  length := h'.length.trans h.length
  cls := fun c => by
    obtain ⟨members, hc, hm⟩ := h.cls c
    obtain ⟨members', hc', hm'⟩ := h'.cls c
    refine ⟨members', by rw [hc', hc], fun name hn => ?_⟩
    rw [hm' name hn, hc, hm name hn]

/-- Nothing but a registry is exchanged. -/
theorem registries (w : World) (registries : List Registry) : Akin w { w with registries } :=
  ⟨rfl, rfl, rfl, rfl, rfl, fun c => ⟨(w.cls c).members, rfl, fun _ _ => rfl⟩⟩

/-! ### Classes -/

variable (h : Akin w w')

include h

theorem get?_members (c : Nat) {name : String} (hn : name ≠ registryAttribute) :
    Assoc.get? (w'.cls c).members name = Assoc.get? (w.cls c).members name := by
  obtain ⟨members, hc, hm⟩ := h.cls c
  rw [hc, hm name hn]

/-- What does not depend on the members of a class is told alike. -/
theorem told {α : Type} {f : RecordClass → α} (hf : ∀ k members, f { k with members } = f k)
    (c : Nat) : f (w'.cls c) = f (w.cls c) := by
  obtain ⟨members, hc, -⟩ := h.cls c
  rw [hc, hf]

theorem name (c : Nat) : (w'.cls c).name = (w.cls c).name := h.told (fun _ _ => rfl) c

theorem ancestors (c : Nat) : w'.ancestors c = w.ancestors c :=
  h.told (f := RecordClass.ancestors) (fun _ _ => rfl) c

theorem layout (c : Nat) : (w'.cls c).layout = (w.cls c).layout := h.told (fun _ _ => rfl) c

theorem schema? (c : Nat) : (w'.cls c).schema? = (w.cls c).schema? := h.told (fun _ _ => rfl) c

theorem addsVariables (c : Nat) : (w'.cls c).addsVariables = (w.cls c).addsVariables :=
  h.told (fun _ _ => rfl) c

theorem isValidated (c : Nat) : w'.isValidated c = w.isValidated c := by
  rw [World.isValidated, h.ancestors, World.isValidated]

theorem maker (c : Nat) : w'.maker c = w.maker c := by
  rw [World.maker, h.isValidated, World.maker]

theorem ref (c : Nat) : w'.ref c = w.ref c := by
  obtain ⟨members, hc, -⟩ := h.cls c
  rw [World.ref, h.maker, hc, World.ref, RecordClass.ref, RecordClass.ref]

theorem scope : w'.scope = w.scope := by
  unfold World.scope
  rw [h.names]

theorem object? (i : Nat) : w'.object? i = w.object? i := by
  rw [World.object?, h.objects, World.object?]

theorem member? (c : Nat) {name : String} (hn : name ≠ registryAttribute) :
    w'.member? c name = w.member? c name := by
  rw [World.member?, h.ancestors, World.member?]
  congr 1
  funext a
  exact h.get?_members a hn

theorem hasVariables (c : Nat) : w'.hasVariables c = w.hasVariables c := by
  rw [World.hasVariables, h.ancestors, World.hasVariables]
  congr 1
  funext a
  exact h.addsVariables a

theorem fieldsOf (c : Nat) : w'.fieldsOf c = w.fieldsOf c := by
  rw [World.fieldsOf, h.schema?, World.fieldsOf]

theorem hiddenField? (c : Nat) (name : String) :
    w'.hiddenField? c name = w.hiddenField? c name := by
  rw [World.hiddenField?, h.schema?, World.hiddenField?]

/-! ### Members -/

theorem isMarked (c : Nat) {name : String} (hn : name ≠ registryAttribute) :
    w'.isMarked c name = w.isMarked c name := by
  rw [World.isMarked, h.member? c hn, World.isMarked]

theorem hook? (v : Value) {rule : String} (hn : rule ≠ registryAttribute) :
    w'.hook? v rule = w.hook? v rule := by
  unfold World.hook?
  simp only [h.object?, h.member? _ hn]

theorem isKeeper (v : Value) : w'.isKeeper v = w.isKeeper v := by
  unfold World.isKeeper
  rw [h.hook? v (by decide), h.hook? v (by decide)]

section

variable (fault : Value → Fault) (o : Instance)

theorem heldValue (v : Value) : w'.heldValue fault v = w.heldValue fault v := by
  unfold World.heldValue
  rw [h.hook? v (by decide)]

theorem ownOrHeld (name : String) (v : Value) :
    w'.ownOrHeld fault o name v = w.ownOrHeld fault o name v := by
  unfold World.ownOrHeld
  rw [h.hook? v (by decide), h.isKeeper, h.heldValue]

theorem toldVariables : w'.toldVariables fault o = w.toldVariables fault o := by
  unfold World.toldVariables
  rw [h.isMarked _ (by decide), h.isMarked _ (by decide), h.member? _ (by decide),
    h.hasVariables, h.name]
  simp only [h.ownOrHeld]

theorem markedVariable (name : String) :
    w'.markedVariable fault o name = w.markedVariable fault o name := by
  unfold World.markedVariable
  rw [h.toldVariables]

theorem slotValue {name : String} (hn : name ≠ registryAttribute) :
    w'.slotValue fault o name = w.slotValue fault o name := by
  unfold World.slotValue
  rw [h.member? _ hn, h.name]
  simp only [h.ownOrHeld, h.markedVariable]

theorem ofMemberBy (name : String) (m : Member) :
    w'.ofMemberBy fault o name m = w.ofMemberBy fault o name m := by
  cases m <;> simp only [World.ofMemberBy, h.heldValue, h.name, h.markedVariable, h.maker, h.ref,
    h.hasVariables, h.fieldsOf, h.slotValue fault o (by decide : givenSlot ≠ _),
    h.slotValue fault o (by decide : extraSlot ≠ _)]

end

theorem callFault (depth : Nat) (v : Value) : w'.callFault depth v = w.callFault depth v := by
  induction depth generalizing v with
  | zero => rfl
  | succ depth ih =>
    have hf : w'.callFault depth = w.callFault depth := funext ih
    cases v <;> simp only [World.callFault, h.object?, h.member? _ (by decide : "__call__" ≠ _),
      h.ofMemberBy, hf]

theorem uncallable : w'.uncallable = w.uncallable := by
  funext v
  rw [World.uncallable, h.length, h.callFault, World.uncallable]

theorem ofMember (o : Instance) (name : String) (m : Member) :
    w'.ofMember o name m = w.ofMember o name m := by
  rw [World.ofMember, h.uncallable, h.ofMemberBy, World.ofMember]

theorem ruleOf (o : Instance) {name : String} (hn : name ≠ registryAttribute) :
    w'.ruleOf o name = w.ruleOf o name := by
  unfold World.ruleOf
  rw [h.member? _ hn, h.uncallable]
  simp only [h.ofMember]

theorem rules (i : Nat) {name : String} (hn : name ≠ registryAttribute) :
    w'.rules i name = w.rules i name := by
  unfold World.rules
  rw [h.object?]
  simp only [h.ruleOf _ hn]

end World.Akin

/-! ### Views -/

/-- Views of the same objects, but for their texts and for the registries of their classes. -/
structure Objects.Akin (objects objects' : Objects) : Prop where
  rule : ∀ i name, name ≠ registryAttribute → objects'.rule i name = objects.rule i name
  read : ∀ i name, name ≠ registryAttribute → objects'.read i name = objects.read i name
  items? : ∀ i, objects'.items? i = objects.items? i

/-- Rules by which values are called in the same way. -/
theorem Value.uncallable_congr {rules rules' : Rules}
    (h : ∀ i, rules' i "__call__" = rules i "__call__") (v : Value) :
    v.uncallable rules' = v.uncallable rules := by
  cases v <;> simp only [uncallable, h]

theorem Rule.apply_congr {rules rules' : Rules}
    (h : ∀ i, rules' i "__call__" = rules i "__call__") (r : Rule) :
    r.apply rules' = r.apply rules := by
  rcases r with _ | _ | (_ | v)
  · rfl
  · rfl
  · rfl
  · rw [apply, apply, Value.uncallable_congr h]

namespace Objects.Akin

variable {objects objects' : Objects} (h : Objects.Akin objects objects')

include h

theorem uncallable (v : Value) : v.uncallable objects'.rule = v.uncallable objects.rule :=
  Value.uncallable_congr (fun i => h.rule i _ (by decide)) v

theorem isCallable (v : Value) : v.isCallable objects'.rule = v.isCallable objects.rule := by
  cases v <;> simp only [Value.isCallable, h.rule _ "__call__" (by decide)]

theorem apply (i : Nat) {rule : String} (hr : rule ≠ registryAttribute) :
    Value.apply objects' i rule = Value.apply objects i rule := by
  rw [Value.apply, h.rule i rule hr, Rule.apply_congr fun i => h.rule i _ (by decide), Value.apply]

theorem truth (v : Value) : v.truth objects' = v.truth objects := by
  cases v <;> simp only [Value.truth, h.apply _ (by decide : "__bool__" ≠ _),
    h.apply _ (by decide : "__len__" ≠ _)]

theorem attr (v : Value) {name : String} (hn : name ≠ registryAttribute) :
    v.attr objects' name = v.attr objects name := by
  cases v <;> simp only [Value.attr, Value.attrBy, h.read _ name hn]

theorem attrOr (v : Value) {name : String} (hn : name ≠ registryAttribute) (absent : Value) :
    v.attrOr objects' name absent = v.attrOr objects name absent := by
  rw [Value.attrOr, h.attr v hn, Value.attrOr]

theorem checkKind (v : Value) : v.checkKind objects' = v.checkKind objects := by
  cases v <;> simp only [Value.checkKind, h.attrOr _ (by decide : "__class__" ≠ _)]

theorem checkClass (v : Value) : v.checkClass objects' = v.checkClass objects := by
  cases v <;> simp only [Value.checkClass, h.read _ "__class__" (by decide)]

theorem called {α : Type} (v : Value) {name : String} (hn : name ≠ registryAttribute) :
    (v.called objects' name : Except Fault α) = v.called objects name := by
  rw [Value.called, h.attr v hn, Value.called]
  simp only [h.uncallable]

theorem mapping (v : Value) : v.mapping objects' = v.mapping objects := by
  cases v <;> simp only [Value.mapping, h.called _ (by decide : "items" ≠ _)]

theorem checkEquality (v : Value) : v.checkEquality objects' = v.checkEquality objects := by
  cases v <;> simp only [Value.checkEquality, h.apply _ (by decide : "__eq__" ≠ _)]

theorem sought {α : Type} (v : Value) (l : List α) (name : α → String) :
    v.sought objects' l name = v.sought objects l name := by
  cases l <;> simp only [Value.sought, h.checkEquality]

theorem objectItems (i : Nat) (c : ClassRef) :
    Value.objectItems objects' i c = Value.objectItems objects i c := by
  unfold Value.objectItems
  simp only [h.rule i "__iter__" (by decide), h.items?, h.uncallable,
    h.apply i (by decide : "__getitem__" ≠ _)]

theorem items (v : Value) : v.items objects' = v.items objects := by
  cases v <;> simp only [Value.items, h.objectItems]

theorem isIterable (v : Value) : v.isIterable objects' = v.isIterable objects := by
  cases v <;> simp only [Value.isIterable, h.checkClass, h.rule _ "__iter__" (by decide), h.items?,
    h.items]

theorem among (key : String) (l : List Value) :
    Value.among objects' key l = Value.among objects key l := by
  induction l with
  | nil => rfl
  | cons v l ih => cases v <;> simp only [Value.among, h.checkEquality, ih]

theorem objectHolds (i : Nat) (c : ClassRef) (key : String) :
    Value.objectHolds objects' i c key = Value.objectHolds objects i c key := by
  unfold Value.objectHolds
  simp only [h.rule i "__contains__" (by decide), h.rule i "__iter__" (by decide), h.items?,
    h.uncallable, h.apply i (by decide : "__getitem__" ≠ _), h.objectItems, h.among]

theorem contains (v : Value) (key : String) : v.contains objects' key = v.contains objects key := by
  cases v <;> simp only [Value.contains, h.among, h.objectHolds]

end Objects.Akin

/-! ### Reading -/

namespace World.Akin

variable {w w' : World} (h : World.Akin w w')

include h

theorem uncallable_rules (v : Value) : v.uncallable w'.rules = v.uncallable w.rules :=
  Value.uncallable_congr (fun i => h.rules i (by decide)) v

theorem applyRule (o : Instance) {name : String} (hn : name ≠ registryAttribute) :
    w'.applyRule o name = w.applyRule o name := by
  rw [World.applyRule, h.ruleOf o hn, Rule.apply_congr fun i => h.rules i (by decide),
    World.applyRule]

theorem readPlain (o : Instance) {attr : String} (ha : attr ≠ registryAttribute) :
    w'.readPlain o attr = w.readPlain o attr := by
  unfold World.readPlain
  rw [h.member? _ ha, h.name, h.uncallable]
  simp only [h.ownOrHeld, h.ofMember]

theorem heldItem (o : Instance) (attr : String) (held : Value) :
    w'.heldItem o attr held = w.heldItem o attr held := by
  cases held <;> simp only [World.heldItem, h.name]

/-- Readers that read all but the registries of classes in the same way. -/
def Readers (r r' : Reader) : Prop := ∀ o attr, attr ≠ registryAttribute → r' o attr = r o attr

theorem bestBase (l : List Nat) : w'.bestBase l = w.bestBase l := by
  have hl : w'.laterBase = w.laterBase := by
    funext a b
    unfold World.laterBase
    simp only [h.ancestors, h.layout]
  cases l with
  | nil => rfl
  | cons b l => rw [World.bestBase, hl, World.bestBase]

theorem ownMember? (c : Nat) {attr : String} (ha : attr ≠ registryAttribute) :
    w'.ownMember? c attr = w.ownMember? c attr := by
  obtain ⟨members, hc, hm⟩ := h.cls c
  have href : w'.ref = w.ref := funext h.ref
  unfold World.ownMember? World.tellsTypes
  simp only [href, h.maker, h.bestBase, h.hasVariables, h.isValidated, hc, hm attr ha]

theorem classMember? (c : Nat) {attr : String} (ha : attr ≠ registryAttribute) :
    w'.classMember? c attr = w.classMember? c attr := by
  unfold World.classMember? World.hiddenMember?
  rw [h.ownMember? c ha, h.member? c ha, h.isValidated, h.maker, h.schema?]

section

variable {r r' : Reader} (hr : Readers r r')

include hr

theorem startRule? (f : Field) {rule : String} (hn : rule ≠ registryAttribute) :
    w'.startRule? r' f rule = w.startRule? r f rule := by
  unfold World.startRule?
  simp only [h.object?, hr _ rule hn]

theorem readHidden (o : Instance) (f : Field) : w'.readHidden r' o f = w.readHidden r o f := by
  unfold World.readHidden
  rw [h.uncallable, h.startRule? hr f (by decide), hr o hiddenSlot (by decide)]
  simp only [h.markedVariable, h.heldItem]

theorem readView : Objects.Akin (w.readView r) (w'.readView r') where
  rule := fun i _ hn => h.rules i hn
  read := fun i name hn => by
    show (w'.object? i).elim _ (r' · name) = (w.object? i).elim _ (r · name)
    rw [h.object?]
    cases w.object? i with
    | none => rfl
    | some o => exact hr o name hn
  items? := fun _ => rfl

theorem readFurther (o : Instance) {attr : String} (ha : attr ≠ registryAttribute) :
    w'.readFurther r' o attr = w.readFurther r o attr := by
  unfold World.readFurther
  rw [h.readPlain o (by decide : toldHidden ≠ _), h.readPlain o (by decide : extraSlot ≠ _),
    h.readPlain o ha, h.classMember? o.cls ha, h.name, hr o hiddenSlot (by decide)]
  simp only [(h.readView hr).contains, h.hiddenField?, h.readHidden hr, h.heldItem]

theorem readMissing (o : Instance) {attr : String} (ha : attr ≠ registryAttribute) (f : Fault) :
    w'.readMissing r' o attr f = w.readMissing r o attr f := by
  unfold World.readMissing
  rw [h.member? _ (by decide : "__getattr__" ≠ _), h.readFurther hr o ha,
    h.applyRule o (by decide : "__getattr__" ≠ _)]

end

theorem readWithin (depth : Nat) : Readers (w.readWithin depth) (w'.readWithin depth) := by
  induction depth with
  | zero => exact fun _ _ _ => rfl
  | succ depth ih =>
    intro o attr ha
    unfold World.readWithin
    rw [h.applyRule o (by decide : "__getattribute__" ≠ _), h.readPlain o ha]
    simp only [h.readMissing ih o ha]

/-- Attributes are read in the same way, unless it is the registry of a class that is read. -/
theorem readInstance : Readers w.readInstance w'.readInstance := by
  intro o attr ha
  rw [World.readInstance, h.length, h.readWithin _ o attr ha, World.readInstance]

theorem read (i : Nat) {attr : String} (ha : attr ≠ registryAttribute) :
    w'.read i attr = w.read i attr := by
  unfold World.read
  rw [h.object?]
  simp only [h.readInstance _ attr ha]

theorem attributeOf (v : Value) {name : String} (hn : name ≠ registryAttribute) :
    w'.attributeOf v name = w.attributeOf v name := by
  cases v <;> simp only [World.attributeOf, Value.attrBy, h.read _ hn]

theorem calling {α : Type} (v : Value) {name : String} (hn : name ≠ registryAttribute) :
    (w'.calling v name : Except Fault α) = w.calling v name := by
  rw [World.calling, h.uncallable, h.attributeOf v hn, World.calling]

theorem entriesOf (v : Value) : w'.entriesOf v = w.entriesOf v := by
  cases v <;> simp only [World.entriesOf, h.calling _ (by decide : "items" ≠ _)]

theorem openItems (o : Instance) : w'.openItems o = w.openItems o := by
  unfold World.openItems
  rw [h.readInstance o "__dict__" (by decide)]
  simp only [h.entriesOf, h.calling _ (by decide : "startswith" ≠ _)]

theorem validatedItems (o : Instance) : w'.validatedItems o = w.validatedItems o := by
  unfold World.validatedItems
  rw [h.openItems, h.readInstance o extraSlot (by decide)]
  simp only [h.entriesOf]

theorem items? (i : Nat) : w'.items? i = w.items? i := by
  unfold World.items?
  rw [h.object?]
  simp only [h.isValidated, h.validatedItems]

/-- The views of the objects differ at most in texts and in the registries of classes. -/
theorem view : Objects.Akin w.view w'.view where
  rule := fun i _ hn => h.rules i hn
  read := fun i _ hn => h.read i hn
  items? := h.items?

end World.Akin

/-! ### Keys -/

/-- Worlds in which the name of the attribute that keeps registries is not that of a field whose
value is part of a key. -/
def World.Unreserved (w : World) : Prop :=
  ∀ c fields, (w.cls c).fields? = some fields → registryAttribute ∉ fieldNames fields

theorem World.Unreserved.names {w : World} (hw : w.Unreserved) {o : Instance} {names : List String}
    (hk : w.keying o = .attributes names) : registryAttribute ∉ names := by
  unfold World.keying at hk
  dsimp only at hk
  split at hk
  · cases hk
  · rename_i a _ _ _
    split at hk
    · cases hk
      exact hw a _ ‹_›
    · cases hk
    · cases hk
  · split at hk <;> cases hk

namespace World.Akin

variable {w w' : World} (h : World.Akin w w')

include h

theorem fields? (c : Nat) : (w'.cls c).fields? = (w.cls c).fields? := h.told (fun _ _ => rfl) c

theorem owner? (c : Nat) {name : String} (hn : name ≠ registryAttribute) :
    w'.owner? c name = w.owner? c name := by
  rw [World.owner?, h.ancestors, World.owner?]
  congr 1
  funext a
  rw [h.get?_members a hn]

theorem keying (o : Instance) : w'.keying o = w.keying o := by
  unfold World.keying
  dsimp only
  rw [h.owner? _ (by decide)]
  simp only [h.name, h.fields?, h.schema?, h.ofMember, h.uncallable_rules]

theorem validatedKey (key : ObjectKey) (o : Instance) (names : List String) :
    w'.validatedKey key o names = w.validatedKey key o names := by
  unfold World.validatedKey
  simp only [List.mapM_cons, List.mapM_nil,
    h.readInstance o extraSlot (by decide), h.readInstance o hiddenSlot (by decide)]

theorem mapM_readInstance {o : Instance} {names : List String}
    (hn : registryAttribute ∉ names) :
    names.mapM (w'.readInstance o) = names.mapM (w.readInstance o) := by
  induction names with
  | nil => rfl
  | cons name names ih =>
    rw [List.mem_cons, not_or] at hn
    rw [List.mapM_cons, List.mapM_cons, h.readInstance o name (Ne.symm hn.1), ih hn.2]

theorem keyWithin (hw : w.Unreserved) (depth i : Nat) :
    w'.keyWithin depth i = w.keyWithin depth i := by
  induction depth generalizing i with
  | zero => rfl
  | succ depth ih =>
    have hkey : w'.keyWithin depth = w.keyWithin depth := funext ih
    rw [World.keyWithin, World.keyWithin, h.object?]
    cases w.object? i with
    | none => rfl
    | some o =>
      dsimp only
      rw [h.keying]
      cases hk : w.keying o with
      | itself => rfl
      | attributes names =>
        dsimp only
        rw [h.mapM_readInstance (hw.names hk), hkey]
      | fields names =>
        dsimp only
        rw [hkey, h.validatedKey]
      | never f => rfl

/-- Objects are the same keys. -/
theorem objectKey (hw : w.Unreserved) : w'.objectKey = w.objectKey := by
  funext i
  rw [World.objectKey, h.objects, h.keyWithin hw, World.objectKey]

end World.Akin

end RecordSql
