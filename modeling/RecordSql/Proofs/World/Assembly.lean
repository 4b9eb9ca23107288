import RecordSql.Proofs.World.Answers
import RecordSql.Proofs.World.Making
import RecordSql.Proofs.Mapping.Extraction

/-! What the making of objects can fail for. In a regular world a class that cannot be called ends
in a type fault, and an attribute that cannot be set in an attribute fault or in that of a frozen
class. The mapping of rows tells both as failures of the construction, and the copying of an entity
does not. -/

namespace RecordSql

open RecordSql.Action (Lands)

/-- Whether an error is a fault of one of some kinds that reaches the caller as it is. -/
def Error.IsFault (kinds : List FaultKind) (e : Error) : Prop := ∃ f, e = .fault f ∧ f.kind ∈ kinds

theorem Error.isFault {kinds : List FaultKind} {f : Fault} (h : f.kind ∈ kinds) :
    (Error.fault f).IsFault kinds := ⟨f, rfl, h⟩

theorem Error.IsFault.mono {kinds kinds' : List FaultKind} {e : Error} (h : e.IsFault kinds)
    (hkinds : kinds ⊆ kinds') : e.IsFault kinds' := by
  obtain ⟨f, rfl, hf⟩ := h
  exact isFault (hkinds hf)

/-- A value from which no object and no feed can be reached. -/
def Value.Alone (v : Value) : Prop := ∀ r ∈ v.references, ∃ n, r = .collection n

namespace World

/-- The worlds that differ from one in objects, feeds and serial numbers alone. -/
def Beside (w w' : World) : Prop :=
  ∃ objects feeds nextSerial, w' = { w with objects, feeds, nextSerial }

theorem Beside.withObjects {w w' : World} (h : w.Beside w') (objects : List Instance) :
    w.Beside { w' with objects } := by
  obtain ⟨_, _, _, rfl⟩ := h
  exact ⟨_, _, _, rfl⟩

theorem Beside.withSerial {w w' : World} (h : w.Beside w') (nextSerial : Nat) :
    w.Beside { w' with nextSerial } := by
  obtain ⟨_, _, _, rfl⟩ := h
  exact ⟨_, _, _, rfl⟩

/-- Whether an attribute of the objects of a class is neither their class nor their variables. -/
def Settable (w : World) (c : Nat) (attr : String) : Prop :=
  w.member? c attr ≠ some .classLink ∧ w.member? c attr ≠ some .ownVariables

/-- Whether the objects of a class have room for an attribute that nothing keeps from being set. -/
def HasRoom (w : World) (c : Nat) (attr : String) : Prop :=
  w.member? c attr = some .slot ∨
    w.hasVariables c = true ∧ ∀ m, w.member? c attr = some m → m.isData = false

/-- Whether a class keeps the fields of its constructor from being set. -/
def Freezes (w : World) (a : Nat) : Prop :=
  Assoc.contains (w.cls a).members "__setattr__" = true ∧ (w.cls a).fields?.isSome = true

/-! ### Changes -/

section Changes

variable {w : World} {c : Nat} {p : World → Prop} {e : Error → Prop}

theorem lands_current {α : Type} {q : α → Edited → Prop} {g : Instance → Action Edited α}
    (h : ∀ o, o.cls = c → Lands (Edits c p) e q (g o)) :
    Lands (Edits c p) e q (current >>= g) :=
  fun s hs => h s.object hs.1 s hs

theorem lands_replace {o : Instance} (ho : o.cls = c) :
    Lands (Edits c p) e (fun _ => Edits c p) (replace o) :=
  .modify fun _ hs => ⟨ho, hs.2⟩

theorem Regular.keeper? (hw : w.Regular) (m : Option Member) : w.keeper? m = none := by
  have hkeeper (v : Value) : w.isKeeper v = false := by
    rw [isKeeper, hw.hook rfl, hw.hook rfl]
    rfl
  cases m with
  | none => rfl
  | some m =>
    cases m with
    | constant v =>
      rw [World.keeper?, hkeeper]
      rfl
    | _ => rfl

/-- Setting an attribute where no class has a rule of its own fails for want of a place. -/
theorem Regular.lands_setPlain (hw : w.Regular) {attr : String}
    (hclass : w.member? c attr ≠ some .classLink) (hvars : w.member? c attr ≠ some .ownVariables)
    (v : Value) :
    Lands (Edits c p) (Error.IsFault [.attr]) (fun _ => Edits c p) (w.setPlain attr v) := by
  refine lands_current fun o ho => ?_
  subst ho
  have hattr {f : Fault} (hf : f.kind = .attr) : (Error.fault f).IsFault [.attr] :=
    Error.isFault (List.mem_singleton.mpr hf)
  dsimp only
  split
  · exact lands_replace rfl
  · exact absurd ‹_› hclass
  · exact .faulty (hattr rfl)
  · exact absurd ‹_› hvars
  · rw [hw.keeper?]
    refine .ite (fun _ => .faulty (hattr rfl)) fun _ => ?_
    refine .ite (fun _ => lands_replace rfl) fun _ => ?_
    split <;> exact .faulty (hattr rfl)

/-- An attribute for which there is room is set. -/
theorem Regular.lands_setPlain_room (hw : w.Regular) {attr : String} (hroom : w.HasRoom c attr)
    (v : Value) : Lands (Edits c p) e (fun _ => Edits c p) (w.setPlain attr v) := by
  refine lands_current fun o ho => ?_
  subst ho
  rcases hroom with hslot | ⟨hvars, hdata⟩
  · rw [hslot]
    exact lands_replace rfl
  · have hproperty : ((w.member? o.cls attr).map Member.isProperty).getD false = false := by
      cases hm : w.member? o.cls attr with
      | none => rfl
      | some m =>
        have h := hdata m hm
        cases m <;> first | rfl | cases h
    dsimp only
    split
    · exact lands_replace rfl
    · cases hdata _ ‹_›
    · cases hdata _ ‹_›
    · cases hdata _ ‹_›
    · rw [hw.keeper?, hproperty, hvars]
      exact lands_replace rfl

/-- Setting an attribute by the rules of classes that do not validate it ends as it does without
rules, or in the refusal of a class that is frozen. -/
theorem Regular.lands_setLoose (hw : w.Regular) {attr : String} {v : Value}
    (hplain : Lands (Edits c p) e (fun _ => Edits c p) (w.setPlain attr v))
    (hfrozen : (∃ a ∈ w.ancestors c, w.Freezes a) → e (.fault (.frozenSet attr))) :
    Lands (Edits c p) e (fun _ => Edits c p) (w.setLoose attr v) := by
  -- the classes are asked in turn: each one refuses, sets the attribute or leaves it to the next
  have hby (l : List Nat) (hl : l ⊆ w.ancestors c) : Lands (Edits c p) e (fun _ => Edits c p)
      (w.setBy (fun _ => w.setPlain attr v) attr v l) := by
    induction l with
    | nil => exact hplain
    | cons a l ih =>
      have ih := ih fun _ h => hl (List.mem_cons_of_mem a h)
      refine lands_current fun o ho => ?_
      dsimp only
      cases hm : Assoc.get? (w.cls a).members "__setattr__" with
      | none => exact ih
      | some m =>
        obtain ⟨r, owner, rfl⟩ := Member.routine_of_isUsual rfl (hw.members a _ m hm)
        cases hfields : (w.cls a).fields? with
        | some fields =>
          have hfreezes : w.Freezes a :=
            ⟨by rw [Assoc.contains, hm]; rfl, by rw [hfields]; rfl⟩
          exact .ite (fun _ => .faulty (hfrozen ⟨a, hl List.mem_cons_self, hfreezes⟩)) fun _ => ih
        | none =>
          cases (w.cls o.cls).schema? with
          | none => exact hplain
          | some schema => exact .ite (fun _ => hplain) fun _ => hplain
  exact lands_current fun o ho => hby (w.ancestors o.cls) (ho ▸ List.Subset.refl _)

/-- Setting an attribute of an object that is not validated. -/
theorem Regular.lands_setInstance (hw : w.Regular) (hc : w.Loose c) {attr : String} {v : Value}
    (hplain : Lands (Edits c p) e (fun _ => Edits c p) (w.setPlain attr v))
    (hfrozen : (∃ a ∈ w.ancestors c, w.Freezes a) → e (.fault (.frozenSet attr))) :
    Lands (Edits c p) e (fun _ => Edits c p) (w.setInstance attr v) := by
  intro s hs
  rw [setInstance_loose (hs.1 ▸ hc)]
  exact hw.lands_setLoose hplain hfrozen s hs

/-! ### Construction -/

theorem Regular.kind_uncallable (hw : w.Regular) (v : Value) :
    (v.uncallable w.rules).kind = .type := by
  cases v with
  | object i t =>
    have hrule : w.rules i "__call__" = .usual := by
      rw [rules]
      cases w.object? i with
      | none => rfl
      | some o =>
        have hcall : w.member? o.cls "__call__" = none := hw.absent rfl
        show w.ruleOf o "__call__" = _
        rw [World.ruleOf, hcall]
    rw [Value.uncallable, hrule]
    rfl
  | _ => rfl

/-- A constructor finds its arguments, or is called in vain for a type fault. -/
theorem kind_of_arguments {k : RecordClass} {fields : List Field} {given : Arguments} {f : Fault}
    (hf : arguments k fields given = .error f) : f.kind = .type := by
  unfold arguments at hf
  dsimp only at hf
  split at hf
  · cases hf
    rfl
  · split at hf
    · split at hf <;> cases hf <;> rfl
    · split at hf <;> cases hf
      rfl

theorem get?_arguments {k : RecordClass} {fields : List Field} {given : Arguments}
    {args : Assoc String Value} (ha : arguments k fields given = .ok args) {name : String}
    (hname : ∀ f ∈ fields, f.name ≠ name) : Assoc.get? args name = none := by
  unfold arguments at ha
  dsimp only at ha
  split at ha
  · cases ha
  · split at ha
    · split at ha <;> cases ha
    · split at ha <;> cases ha
      refine Option.eq_none_iff_forall_ne_some.mpr fun v hv => ?_
      obtain ⟨f, hf, hfv⟩ := List.mem_map.mp (Assoc.mem_of_get? hv)
      exact hname f hf (congrArg Prod.fst hfv)

theorem Regular.kind_of_fieldValue (hw : w.Regular) {args : Assoc String Value} {field : Field}
    {f : Fault} (hf : w.fieldValue args field = .error f) : f.kind = .type := by
  unfold fieldValue at hf
  dsimp only at hf
  split at hf
  · split at hf <;> cases hf
    exact hw.kind_uncallable _
  · cases hf

/-- A constructor whose fields have room, if it is not kept from setting them. -/
def Constructs (w : World) (c : Nat) : Prop :=
  ∀ a fields frozen, (w.owner? c "__init__").map (·.1) = some a →
    (w.cls a).shape = .fielded fields frozen → ∀ f ∈ fields,
      w.HasRoom c f.name ∧ f.name ≠ setterTerm ∧
        (frozen = false → ∀ b ∈ w.ancestors c, ¬w.Freezes b)

theorem Regular.lands_initialise (hw : w.Regular) (hc : w.Loose c) {fields : List Field}
    {frozen : Bool} {args : Assoc String Value} (hsetter : Assoc.get? args setterTerm = none)
    (hfields : ∀ f ∈ fields, w.HasRoom c f.name ∧
      (frozen = false → ∀ b ∈ w.ancestors c, ¬w.Freezes b)) :
    Lands (Edits c p) (Error.IsFault [.type]) (fun _ => Edits c p)
      (w.initialise fields frozen args) := by
  refine .forM fun f hf => ?_
  have hvalue : Lands (Edits c p) (Error.IsFault [.type])
      (fun v e => w.fieldValue args f = .ok v ∧ Edits c p e)
      (liftM (w.fieldValue args f) : Action Edited Value) :=
    .liftedFault fun fault hfault => Error.isFault
      (List.mem_singleton.mpr (hw.kind_of_fieldValue hfault))
  cases frozen with
  | true =>
    rw [if_pos rfl]
    dsimp only
    rw [hsetter]
    refine .known (b := none) rfl (.bind hvalue fun v => .given fun _ => ?_)
    exact hw.lands_setPlain_room (hfields f hf).1 v
  | false =>
    rw [if_neg Bool.false_ne_true]
    refine .bind hvalue fun v => .given fun _ => ?_
    exact hw.lands_setInstance hc (hw.lands_setPlain_room (hfields f hf).1 v)
      fun ⟨b, hb, hfreezes⟩ => absurd hfreezes ((hfields f hf).2 rfl b hb)

theorem Regular.leftOpen (hw : w.Regular) (c : Nat) : w.leftOpen c = .ok [] := by
  rw [World.leftOpen]
  cases hm : Assoc.get? (w.cls c).members "__abstractmethods__" with
  | none => rfl
  | some m =>
    have h := hw.members c _ m hm
    cases m with
    | constant v =>
      cases v with
      | fixedSet l n =>
        cases l with
        | nil =>
          dsimp only
          split <;> rfl
        | cons _ _ => cases h
      | _ => cases h
    | _ => cases h

theorem Regular.checkMaking (hw : w.Regular) (c : Nat) : w.checkMaking c false = .ok () := by
  rw [World.checkMaking]
  cases hm : w.member? c "__new__" with
  | none =>
    rw [hw.leftOpen]
    rfl
  | some m =>
    obtain ⟨r, owner, rfl⟩ := hw.routine rfl hm
    rw [hw.leftOpen]
    rfl

theorem Regular.checkStarted (hw : w.Regular) (a : Nat) (o : Instance) :
    w.checkStarted a o = .ok () := by
  have hnone : Assoc.get? (w.cls a).members "__post_init__" = none := by
    cases hm : Assoc.get? (w.cls a).members "__post_init__" with
    | none => rfl
    | some m => exact absurd (hw.members a _ m hm) (Member.not_isUsual rfl m)
  rw [World.checkStarted, Assoc.contains, hnone]
  rfl

theorem lands_continued {o : Instance} {x : Change}
    (hx : Lands (Edits o.cls p) e (fun _ => Edits o.cls p) x) :
    Lands p e (fun o' w' => o'.cls = o.cls ∧ p w') (continued o x) := by
  intro w' hw'
  obtain ⟨herror, hresult⟩ := hx { object := o, world := w' } ⟨rfl, hw'⟩
  refine ⟨fun err herr => ?_, fun o' ho => ?_⟩
  · refine herror err ?_
    cases hr : (x { object := o, world := w' }).result with
    | ok _ =>
      rw [continued, hr] at herr
      cases herr
    | error err' =>
      rw [continued, hr] at herr
      cases herr
      rfl
  · obtain ⟨_, hr, rfl⟩ := map_eq_ok.mp ho
    exact hresult _ hr

/-- An object of a class without validation is made, or cannot be for a type fault. -/
theorem Regular.lands_construct (hw : w.Regular) (hc : w.Loose c) (hroom : w.Constructs c) :
    Lands (· = w) (Error.IsFault [.type]) (fun o w' => o.cls = c ∧ w' = w)
      (construct c .none) := by
  refine .getBind fun w' hw' => ?_
  subst hw'
  refine .known (hw.checkMaking c) (.known (hw.applyRule rfl { cls := c }) ?_)
  cases ha : (w'.owner? c "__init__").map (·.1) with
  | none => exact .pure fun _ h => ⟨rfl, h⟩
  | some a =>
    -- a class whose objects are not validated comes to the constructor of those that are only
    -- without anything to validate
    have hplain : a = validator → (w'.cls c).schema? = none := by
      rintro rfl
      refine hc.resolve_right fun hv => ?_
      obtain ⟨found, hfound, ha⟩ := Option.map_eq_some_iff.mp ha
      obtain ⟨b, hb, hm⟩ := List.exists_of_findSome?_eq_some hfound
      obtain ⟨m, -, rfl⟩ := Option.map_eq_some_iff.mp hm
      obtain rfl : b = validator := ha
      simp [isValidated, hb] at hv
    have hrest (x : Action World Instance) (hx : a = validator → x = return { cls := c }) :
        Lands (· = w') (Error.IsFault [.type]) (fun o w => o.cls = c ∧ w = w')
          (if a = validator then x else return { cls := c }) :=
      .ite (fun ha => hx ha ▸ .pure fun _ h => ⟨rfl, h⟩) fun _ => .pure fun _ h => ⟨rfl, h⟩
    dsimp only
    cases hs : (w'.cls a).shape with
    | fielded fields frozen =>
      have hfields := hroom a fields frozen ha hs
      refine .bind (.liftedFault fun f hf => Error.isFault
        (List.mem_singleton.mpr (kind_of_arguments hf))) fun args => .given fun hargs => ?_
      have hsetter := get?_arguments hargs fun f hf => (hfields f hf).2.1
      refine .bind (lands_continued (hw.lands_initialise hc hsetter fun f hf =>
        ⟨(hfields f hf).1, (hfields f hf).2.2⟩)) fun o => .given fun ho => ?_
      exact .known (hw.checkStarted a o) (.pure fun _ h => ⟨ho, h⟩)
    | _ => exact hrest _ fun ha => by rw [hplain ha]; rfl

/-! ### Copies -/

/-- What is found from a value alone are collections. -/
def Copies.FewFound (s : Copies) : Prop := ∀ r ∈ s.found, ∃ n, r = .collection n

theorem lands_find (w : World) (depth n : Nat) : Lands Copies.FewFound e (fun _ => Copies.FewFound)
    (w.find depth (.collection n)) := by
  cases depth with
  | zero => exact .pure fun _ h => h
  | succ depth =>
    refine .getBind fun s hs => .ite (fun _ => .pure fun _ h => h ▸ hs) fun _ => ?_
    refine .bind (r := fun _ => Copies.FewFound) (.set fun _ _ r hr => ?_) fun _ =>
      .pure fun _ h => h
    rcases List.mem_append.mp hr with hr | hr
    · exact hs r hr
    · exact ⟨n, List.mem_singleton.mp hr⟩

theorem objectsAmong_eq_nil {s : Copies} (h : s.FewFound) : objectsAmong s.found = [] :=
  List.filterMap_eq_nil_iff.mpr fun r hr => by
    obtain ⟨n, rfl⟩ := h r hr
    rfl

/-- A value alone can be copied. -/
theorem lands_copied {v : Value} (hv : v.Alone) :
    Lands w.Beside e (fun _ => w.Beside) (copied v) := by
  refine .getBind fun w' hw' => ?_
  have hrun : Lands Copies.FewFound (fun _ => False) (fun _ => Copies.FewFound)
      (v.references.forM (w'.find (w'.objects.length + w'.feeds.length + 1))) :=
    .forM fun r hr => by
      obtain ⟨n, rfl⟩ := hv r hr
      exact lands_find w' _ n
  have hnone : Copies.FewFound {} := fun _ hr => absurd hr List.not_mem_nil
  obtain ⟨herror, hresult⟩ := hrun {} hnone
  refine .bind (r := fun _ _ => ∃ u, (v.references.forM
      (w'.find (w'.objects.length + w'.feeds.length + 1)) {}).result = .ok u)
    (.ofExcept (fun err herr => (herror err herr).elim) fun u _ hu _ => ⟨u, hu⟩) fun _ =>
    .assuming fun ⟨u, hu⟩ => ?_
  obtain ⟨_, _, _, rfl⟩ := hw'
  refine .bind (r := fun _ => w.Beside) (.set fun _ _ => ?_) fun _ => .pure fun _ h => h
  -- no object was found, so none is copied, and no class is told what slots it has
  rw [objectsAmong_eq_nil (hresult u hu)]
  exact ⟨_, _, _, rfl⟩

/-! ### Reviving -/

theorem lands_started {f : Field} (hf : ∀ v, f.start = .value v → v.Alone) (trusted : Bool) :
    Lands w.Beside e (fun _ => w.Beside) (started trusted f) := by
  refine .getBind fun w' hw' => ?_
  cases hs : f.start with
  | value v =>
    have hv := hf v hs
    have hcopy : Lands (· = w') e (fun _ => w.Beside) (do return some (f.name, ← copied v)) :=
      .bind ((lands_copied hv).mono (fun _ h => h ▸ hw') (fun _ h => h) fun _ _ h => h) fun _ =>
        .pure fun _ h => h
    have htrusted : w'.checkTrusted v = .ok () := by
      cases v with
      | object i c =>
        obtain ⟨n, hn⟩ := hv (.object i) List.mem_cons_self
        cases hn
      | _ => rfl
    cases trusted with
    | true => exact .known htrusted hcopy
    | false =>
      exact .ite (fun h => nomatch h) fun _ =>
        .ite (fun _ => hcopy) fun _ => .pure fun _ h => h ▸ hw'
  | _ => exact .pure fun _ h => h ▸ hw'

theorem lands_filled {fields : List Field}
    (hfields : ∀ f ∈ fields, ∀ v, f.start = .value v → v.Alone) (trusted : Bool)
    (given : List (String × Value)) :
    Lands w.Beside e (fun _ => w.Beside) (filled trusted fields given) := by
  refine .bind (r := fun _ => w.Beside) (.mapM fun f hf => ?_) fun _ => .pure fun _ h => h
  split
  · exact .pure fun _ h => h
  · exact lands_started (hfields f hf) trusted

theorem Regular.beside (hw : w.Regular) {w' : World} (h : w.Beside w') : w'.Regular := by
  obtain ⟨_, _, _, rfl⟩ := h
  exact ⟨hw.members, hw.linked, hw.unvalidated, hw.validated⟩

/-- The slots of a validated object take any values, and its variables any dictionary. -/
theorem Regular.lands_setHeld (hw : w.Regular) (hc : w.isValidated c = true)
    (entry : String × Value) (h : (∃ es n, entry = ("__dict__", .dict es n)) ∨
      entry.1 ∈ [givenSlot, extraSlot, hiddenSlot]) :
    Lands (Edits c p) e (fun _ => Edits c p) (w.setPlain entry.1 entry.2) := by
  obtain ⟨hvars, hmembers⟩ := hw.validated c hc
  rcases h with ⟨es, n, rfl⟩ | hslot
  · refine lands_current fun o ho => ?_
    subst ho
    rw [hw.ownVariables]
    refine lands_current fun o' ho' => ?_
    rw [ho', hvars]
    exact lands_replace rfl
  · have hn : ∀ name ∈ [givenSlot, extraSlot, hiddenSlot],
        Assoc.get? Member.usual name = some Member.isSlot := by
      simp only [List.forall_mem_cons]
      exact ⟨rfl, rfl, rfl, fun _ h => absurd h List.not_mem_nil⟩
    obtain ⟨m, hm⟩ := Option.isSome_iff_exists.mp
      (hmembers entry.1 (List.mem_cons_of_mem _ (List.mem_append_left _ hslot)))
    obtain rfl := hw.slot (hn _ hslot) hm
    exact hw.lands_setPlain_room (.inl hm) entry.2

/-- A class whose start values can be copied. -/
def Starts (w : World) (c : Nat) : Prop :=
  ∀ schema, (w.cls c).schema? = some schema → ∀ f ∈ schema.fields ++ schema.hidden,
    ∀ v, f.start = .value v → v.Alone

/-- A validated object is made of trusted values. -/
theorem Regular.lands_revive (hw : w.Regular) (hc : w.isValidated c = true) (hstarts : w.Starts c)
    {schema : Schema} (hs : (w.cls c).schema? = some schema) (given : List (String × Value)) :
    Lands w.Beside e (fun o w' => o.cls = c ∧ w.Beside w') (revive c schema given) := by
  have hstart := hstarts schema hs
  refine .bind (lands_filled (fun f hf => hstart f (List.mem_append_left _ hf)) true _)
    fun vars => ?_
  refine .getBind fun w' hw' => ?_
  have hw := hw.beside hw'
  have hvalid : w'.isValidated c = true := by
    obtain ⟨_, _, _, rfl⟩ := hw'
    exact hc
  have hheld (o : Instance) (ho : o.cls = c) {entries : List (String × Value)}
      (h : ∀ entry ∈ entries, (∃ es n, entry = ("__dict__", .dict es n)) ∨
        entry.1 ∈ [givenSlot, extraSlot, hiddenSlot]) :
      Lands w.Beside e (fun o w' => o.cls = c ∧ w.Beside w')
        (continued o (entries.forM fun entry => w'.setPlain entry.1 entry.2)) := by
    subst ho
    exact lands_continued (.forM fun entry hentry => hw.lands_setHeld hvalid entry (h entry hentry))
  refine .bind (r := fun o w' => o.cls = c ∧ w.Beside w') ((hheld { cls := c } rfl ?_).mono
    (fun _ h => h ▸ hw') (fun _ h => h) fun _ _ h => h) fun o => .given fun ho => ?_
  · simp only [List.forall_mem_cons]
    exact ⟨.inl ⟨_, _, rfl⟩, .inr (.head _), .inr (.tail _ (.head _)),
      .inr (.tail _ (.tail _ (.head _))), fun _ h => absurd h List.not_mem_nil⟩
  · refine .known (hw.applyRule rfl o) (.ite (fun _ => .pure fun _ h => ⟨ho, h⟩) fun _ => ?_)
    have hhidden : Lands w.Beside e (fun _ => w.Beside) (hiddenValues schema
        (beyond schema.fields (given.filter fun e => e.1 ≠ "_fields_set"))) :=
      .bind (lands_filled (fun f hf => hstart f (List.mem_append_right _ hf)) true _) fun _ =>
        .pure fun _ h => h
    refine .bind hhidden fun v => ?_
    subst ho
    exact lands_continued (hw.lands_setHeld hvalid (hiddenSlot, v)
      (.inr (.tail _ (.tail _ (.head _)))))

theorem Regular.checkReviving (hw : w.Regular) (hc : w.isValidated c = true)
    {given : List (String × Value)} (hcls : given.lookup "cls" = none) :
    w.checkReviving c given = .ok () := by
  obtain ⟨m, hm⟩ := Option.isSome_iff_exists.mp
    ((hw.validated c hc).2 "model_construct" (by simp))
  obtain ⟨r, owner, rfl⟩ := hw.routine rfl hm
  rw [World.checkReviving, hm, hcls]
  exact hw.checkMaking c

/-! ### New objects -/

/-- A reference to an object of a class, in a world that differs from one in objects alone. -/
def Refers (w : World) (c : Nat) (v : Value) (w' : World) : Prop :=
  ∃ i k o, v = .object i k ∧ w'.object? i = some o ∧ o.cls = c ∧ w.Beside w'

theorem lands_kept {q : World → Prop} (hq : ∀ w' nextSerial, q w' → q { w' with nextSerial })
    (v : Value) : Lands q e (fun _ => q) (kept v) :=
  .getBind fun w' hw' =>
    .bind (r := fun _ => q) (.set fun _ _ => hq w' _ hw') fun _ => .pure fun _ h => h

theorem lands_added (o : Instance) : Lands w.Beside e (w.Refers o.cls) (added o) := by
  have hvalue (v : Value) : Lands w.Beside e (fun _ => w.Beside) (kept v) :=
    lands_kept (fun _ nextSerial h => h.withSerial nextSerial) v
  have hkept : Lands w.Beside e (fun o' w' => o'.cls = o.cls ∧ w.Beside w') (keptInstance o) := by
    refine .bind (r := fun _ => w.Beside) (.mapM fun _ _ => ?_) fun vars => ?_
    · exact .bind (hvalue _) fun _ => .bind (hvalue _) fun _ => .pure fun _ h => h
    · refine .bind (r := fun _ => w.Beside) (.mapM fun _ _ => ?_) fun slots => ?_
      · exact .bind (hvalue _) fun _ => .pure fun _ h => h
      · exact .pure fun _ h => ⟨rfl, h⟩
  refine .bind hkept fun o' => .given fun ho' => ?_
  refine .bind (r := fun i w' => w'.object? i = some o' ∧ w.Beside w') ?_ fun i => ?_
  · refine .getBind fun w' hw' => ?_
    refine .bind (r := fun _ w'' => w''.object? w'.objects.length = some o' ∧ w.Beside w'')
      (.set fun _ _ => ⟨?_, ?_⟩) fun _ => .pure fun _ h => h
    · exact List.getElem?_concat_length
    · exact hw'.withObjects _
  · refine .getBind fun w' hw' => .pure fun _ h => ?_
    rw [h]
    exact ⟨i, _, o', rfl, hw'.1, ho', hw'.2⟩

/-- A change of an object that is referred to is one in the world. -/
theorem lands_changing {i : Nat} {k : ClassRef} {x : Change}
    (hx : Lands (Edits c (w.Refers c (.object i k))) e
      (fun _ => Edits c (w.Refers c (.object i k))) x) :
    Lands (w.Refers c (.object i k)) e (fun _ => w.Refers c (.object i k)) (changing i x) := by
  intro w' hw'
  have hobject : ((w'.object? i).getD { cls := root }).cls = c := by
    obtain ⟨_, _, o, hv, hi, ho, -⟩ := hw'
    cases hv
    rw [hi]
    exact ho
  obtain ⟨herror, hresult⟩ := hx ⟨(w'.object? i).getD { cls := root }, w', some i⟩ ⟨hobject, hw'⟩
  refine ⟨herror, fun u hu => ?_⟩
  obtain ⟨hcls, _, _, o, hv, hi, -, hbeside⟩ := hresult u hu
  cases hv
  refine ⟨i, k, _, rfl, ?_, hcls, ?_⟩
  · obtain ⟨hlt, -⟩ := List.getElem?_eq_some_iff.mp hi
    exact List.getElem?_set_self hlt
  · exact hbeside.withObjects _

/-- Setting an attribute of an object that is not validated fails for want of a place, or as its
class is frozen. -/
theorem Regular.lands_setAttr (hw : w.Regular) (hc : w.Loose c) {attr : String}
    (hset : w.Settable c attr) (i : Nat) (k : ClassRef) (v : Value) :
    Lands (w.Refers c (.object i k)) (Error.IsFault [.attr, .frozen])
      (fun _ => w.Refers c (.object i k)) (setAttr (.object i k) attr v) := by
  have hserial (w' : World) (nextSerial : Nat) (h : w.Refers c (.object i k) w') :
      w.Refers c (.object i k) { w' with nextSerial } := by
    obtain ⟨i', k', o, hv, hi, ho, hbeside⟩ := h
    exact ⟨i', k', o, hv, hi, ho, hbeside.withSerial nextSerial⟩
  refine .bind (lands_kept hserial v) fun v => .getBind fun w' hw' => ?_
  obtain ⟨-, -, -, -, -, -, hbeside⟩ := id hw'
  have hregular := hw.beside hbeside
  refine (lands_changing ?_).mono (fun _ h => h ▸ hw') (fun _ h => h) fun _ _ h => h
  obtain ⟨_, _, _, rfl⟩ := hbeside
  refine hregular.lands_setInstance hc ?_ fun _ => Error.isFault (.tail _ (.head _))
  refine (hregular.lands_setPlain hset.1 hset.2 v).mono (fun _ h => h) ?_ fun _ _ h => h
  exact fun _ h => h.mono (List.subset_append_left [_] [_])

/-! ### Assembly -/

theorem lands_asConstruction {α : Type} {kinds : List FaultKind} {q : α → World → Prop}
    {x : Action World α} (h : Lands p (Error.IsFault kinds) q x) :
    Lands p Error.IsTold q (asConstruction c kinds x) := by
  refine .getBind fun w' hw' => ?_
  refine .mapError (h.mono (fun _ h => h ▸ hw') (fun _ h => h) fun _ _ h => h) fun err herr => ?_
  obtain ⟨f, rfl, hf⟩ := herr
  have hkinds : kinds.contains f.kind = true := List.contains_iff_mem.mpr hf
  dsimp only
  rw [if_pos hkinds]
  exact .construction ..

/-- What the mapping of rows needs of a class, and of the properties whose columns its table has. A
class that is not validated can construct its objects, and lets attributes of these names be set;
one that is validated can copy its start values, and has no property that hides its own argument. -/
structure Assembles (w : World) (c : Nat) (keys : List String) : Prop where
  loose : w.Loose c → w.Constructs c ∧ ∀ key ∈ keys, w.Settable c key
  validated : w.isValidated c = true → w.Starts c ∧ "cls" ∉ keys

theorem Regular.lands_assemblePlain (hw : w.Regular) (hl : w.Loose c) (hc : w.Constructs c)
    {values : List (String × Value)} (hset : ∀ e ∈ values, w.Settable c e.1) :
    Lands (· = w) Error.IsTold (fun _ _ => True) (assemblePlain c values) := by
  refine .bind (lands_asConstruction (hw.lands_construct hl hc)) fun o => .given fun ho => ?_
  subst ho
  refine .bind (r := w.Refers o.cls) ((lands_added o).mono
    (fun _ h => h ▸ ⟨_, _, _, rfl⟩) (fun _ h => h) fun _ _ h => h) fun v => ?_
  intro s hs
  obtain ⟨i, k, -, rfl, -⟩ := id hs
  refine Lands.bind (r := fun _ => w.Refers o.cls (.object i k)) (.forM fun entry hentry => ?_)
    (fun _ => .pure fun _ _ => trivial) s hs
  exact lands_asConstruction (hw.lands_setAttr hl (hset entry hentry) i k entry.2)

/-- An object is assembled of attributes, or one of the library's own errors tells why it is not. -/
theorem Regular.lands_assemble (hw : w.Regular) {values : List (String × Value)}
    (hc : w.Assembles c (values.map (·.1))) :
    Lands (· = w) Error.IsTold (fun _ _ => True) (assemble c values) := by
  rintro s rfl
  rcases s.loose_or c with hl | ⟨schema, hv, hs⟩
  · rw [assemble_loose hl]
    obtain ⟨hconstructs, hset⟩ := hc.loose hl
    exact hw.lands_assemblePlain hl hconstructs
      (fun e he => hset e.1 (List.mem_map_of_mem he)) s rfl
  · rw [assemble_validated hv hs]
    obtain ⟨hstarts, hcls⟩ := hc.validated hv
    have hlookup : values.lookup "cls" = none := List.lookup_eq_none_iff.mpr fun entry hentry =>
      bne_iff_ne.mpr fun h => hcls (h ▸ List.mem_map_of_mem hentry)
    have hrevive : Lands (· = s) Error.IsTold (fun o w' => o.cls = c ∧ s.Beside w')
        (revive c schema values) :=
      (hw.lands_revive hv hstarts hs values).mono (fun _ h => h ▸ ⟨_, _, _, rfl⟩)
        (fun _ h => h) fun _ _ h => h
    refine Lands.known (p := (· = s)) (hw.checkReviving hv hlookup)
      (.bind hrevive fun o => .given fun _ => ?_) s rfl
    exact (lands_added o).mono (fun _ h => h) (fun _ h => h) fun _ _ _ => trivial

/-! ### Rows -/

theorem Assembles.mono {keys keys' : List String} (h : w.Assembles c keys) (hkeys : keys' ⊆ keys) :
    w.Assembles c keys' where
  loose hl := ⟨(h.loose hl).1, fun key hkey => (h.loose hl).2 key (hkeys hkey)⟩
  validated hv := ⟨(h.validated hv).1, fun hcls => (h.validated hv).2 (hkeys hcls)⟩

/-- The values of a row are those of properties with a column, or one of the library's own errors
tells why they are not. -/
theorem lands_extractRow {r : Nat} {lead : Value} (hlead : lead = .null ∨ ∃ s, lead = .text s)
    (config : Config) (es : List (Value × Value)) (n : Nat) :
    Lands (· = w) Error.IsTold
      (fun values w' => (∃ t, (w.registry r).table w.view (.cls (w.ref c)) = .ok t ∧
        values.map (·.1) ⊆ t.propertyKeys) ∧ w' = w)
      (extractRow (w.mapper c lead config) r (.dict es n)) := by
  refine .getBind fun w' hw' => ?_
  subst hw'
  rintro s rfl
  cases ht : (s.registry r).table s.view (.cls (s.ref c)) with
  | error err =>
    have hextract : (s.mapper c lead config).extract (s.registry r) s.view (.dict es n) s.feeds =
        ⟨.error err, s.feeds, []⟩ := by
      have htable : (liftM ((s.registry r).table s.view (.cls (s.ref c))) : Action Feeds Table)
          s.feeds = ⟨.error err, s.feeds, []⟩ := by
        rw [ht]
        rfl
      exact Action.bind_run_error htable _
    rw [drawing, Action.within, hextract]
    exact ⟨fun _ h => Except.error.inj h ▸ Registry.isTold_of_table ht, fun _ h => (nomatch h)⟩
  | ok t =>
    obtain ⟨l, hl⟩ : ∃ l, (s.mapper c lead config).leadFor s.view t = .ok l := by
      rcases hlead with rfl | ⟨l, rfl⟩ <;> exact ⟨_, rfl⟩
    rw [drawing, Action.within, Mapper.extract_dict ht hl]
    refine ⟨fun err herr => ?_, fun values hvalues => ⟨⟨t, rfl, fun key hkey => ?_⟩, rfl⟩⟩
    · obtain ⟨cell, -, herr⟩ := exists_of_mapM_error herr
      rcases bind_eq_error.mp herr with herr | ⟨v, -, herr⟩
      · exact Column.isTold_of_loaded herr
      · cases herr
    · obtain ⟨entry, hentry, rfl⟩ := List.mem_map.mp hkey
      obtain ⟨cell, hcell, hload⟩ := exists_of_mem_mapM hvalues hentry
      obtain ⟨column, hcolumn, hvalue⟩ := List.mem_filterMap.mp hcell
      obtain ⟨v, -, rfl⟩ := Option.map_eq_some_iff.mp hvalue
      rw [(Mapper.loadCell_eq_ok.mp hload).1]
      exact List.mem_map_of_mem hcolumn

/-- A row is mapped to an object, or one of the library's own errors tells why it is not. -/
theorem Regular.lands_mapRow (hw : w.Regular) {r : Nat} {lead : Value}
    (hlead : lead = .null ∨ ∃ s, lead = .text s)
    (hc : ∀ t, (w.registry r).table w.view (.cls (w.ref c)) = .ok t → w.Assembles c t.propertyKeys)
    (config : Config) (es : List (Value × Value)) (n : Nat) :
    Lands (· = w) Error.IsTold (fun _ _ => True) (mapRow c r lead config (.dict es n)) := by
  refine .getBind fun w' hw' => ?_
  subst hw'
  refine .bind (lands_extractRow hlead config es n) fun values => .given fun ⟨t, ht, hkeys⟩ => ?_
  exact hw.lands_assemble ((hc t ht).mono hkeys)

/-! ### Helpers of entities -/

theorem helped_object {i : Nat} {k : ClassRef} {o : Instance} (hi : w.object? i = some o)
    {name : String} (hhelp : w.requireHelper o name = .ok ()) :
    w.helped (.object i k) name = .ok o := by
  rw [helped, hi]
  dsimp only
  rw [hhelp]
  rfl

theorem Regular.tableRegistry_ok (hw : w.Regular) (c : Nat) : ∃ r, w.tableRegistry c = .ok r := by
  rw [tableRegistry, usableRegistry, registryOf]
  cases hm : w.member? c registryAttribute with
  | none => exact ⟨0, rfl⟩
  | some m =>
    have h := hw.member hm
    cases m with
    | registry r => exact ⟨_, rfl⟩
    | _ => cases h

/-- What an object tells of its columns fails for want of a table, or of variables. -/
theorem Regular.toPlain_error (hw : w.Regular) {i : Nat} {k : ClassRef} {o : Instance}
    (hi : w.object? i = some o) (hhelp : w.requireHelper o "to_plain" = .ok ()) {err : Error}
    (herr : w.toPlain (.object i k) = .error err) :
    err.IsTold ∨ w.hasVariables o.cls = false ∧ err = .fault .noVariables := by
  obtain ⟨r, hr⟩ := hw.tableRegistry_ok o.cls
  rw [toPlain, helped_object hi hhelp] at herr
  rcases bind_eq_error.mp herr with herr | ⟨_, ho, herr⟩
  · cases herr
  cases ho
  rw [hr] at herr
  rcases bind_eq_error.mp herr with herr | ⟨_, hr', herr⟩
  · cases herr
  cases hr'
  cases ht : w.tableIn? w.view o.cls r with
  | none =>
    rw [ht] at herr
    cases herr
    exact .inl (.notRegistered _)
  | some t =>
    rw [ht] at herr
    obtain ⟨f, hf, rfl⟩ := mapError_eq_error.mp herr
    rw [plainOf, hw.readInstance_dict] at hf
    cases hvars : w.hasVariables o.cls with
    | true =>
      rw [hvars, if_pos rfl] at hf
      cases hf
    | false =>
      rw [hvars, if_neg Bool.false_ne_true] at hf
      cases hf
      exact .inr ⟨rfl, rfl⟩

/-- A copy of an entity may moreover fail raw: its class cannot be called without arguments, or its
attributes cannot be set. -/
theorem Regular.lands_clone (hw : w.Regular) {i : Nat} {k : ClassRef} {o : Instance}
    (hi : w.object? i = some o)
    (hhelp : ∀ name ∈ ["clone", "to_plain"], w.requireHelper o name = .ok ())
    (hloose : w.Loose o.cls) (hc : w.Constructs o.cls)
    (hset : ∀ l, w.toPlain (.object i k) = .ok l → ∀ e ∈ l, w.Settable o.cls e.1) :
    Lands (· = w) (fun e => e.IsTold ∨ e.IsFault [.type, .attr, .frozen]) (fun _ _ => True)
      (clone (.object i k)) := by
  refine .getBind fun w' hw' => ?_
  subst hw'
  refine .known (helped_object hi (hhelp _ (.head _))) ?_
  refine .bind ((hw.lands_construct hloose hc).mono (fun _ h => h) (fun err herr => .inr ?_)
    fun _ _ h => h) fun copy => .given fun hcopy => ?_
  · exact herr.mono (List.subset_append_left [_] [_, _])
  have hadded : Lands (· = w') (fun e => e.IsTold ∨ e.IsFault [.type, .attr, .frozen])
      (w'.Refers o.cls) (added copy) := by
    rw [← hcopy]
    exact (lands_added copy).mono (fun _ h => h ▸ ⟨_, _, _, rfl⟩) (fun _ h => h) fun _ _ h => h
  refine .bind hadded fun v => ?_
  intro s hs
  obtain ⟨i', k', -, rfl, -⟩ := id hs
  refine Lands.bind (.lifted fun err herr => ?_) (fun l => .given fun hl =>
    .bind (r := fun _ => w'.Refers o.cls (.object i' k')) (.forM fun entry hentry => ?_)
      fun _ => .pure fun _ _ => trivial) s hs
  · refine (hw.toPlain_error hi (hhelp _ (.tail _ (.head _))) herr).imp_right fun ⟨_, hnone⟩ => ?_
    exact hnone ▸ Error.isFault (.head _)
  · exact (hw.lands_setAttr hloose (hset l hl entry hentry) i' k' entry.2).mono (fun _ h => h)
      (fun _ h => .inr (h.mono (List.subset_cons_self _ _))) fun _ _ h => h

end Changes

end World

end RecordSql
