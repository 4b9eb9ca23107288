import RecordSql.Proofs.Statement.PartialSources
import RecordSql.Proofs.World.Assembly
import RecordSql.Proofs.World.Growth
import RecordSql.Proofs.World.Ordinary

/-! Reviving: validated objects of trusted values. An object holds what it was given for its fields,
beside the start values of the others, and tells which fields it was given. The world around it gets
at most copies of start values, and classes the lists of their slots. -/

namespace RecordSql

open RecordSql.Action

/-- Texts need no serial number, but a set of them does. -/
theorem Value.numbered_texts (l : List String) (n : Nat) :
    ((Value.set (l.map .text)).numbered n).1 = .set (l.map .text) n := by
  have hall (next : Nat) : numberedAll next (l.map .text) = (l.map .text, next) := by
    induction l with
    | nil => rfl
    | cons s l ih =>
      have hcons : numberedAll next ((s :: l).map .text) =
          (.text s :: (numberedAll next (l.map .text)).1, (numberedAll next (l.map .text)).2) := rfl
      rw [hcons, ih]
      rfl
  rw [numbered]
  show Value.set (numberedAll (n + 1) (l.map .text)).1 n = _
  rw [hall]

namespace World

/-! ### Lists of slots -/

/-- Worlds with the same registries, where classes have got at most the lists of their slots. -/
structure Relisted (w w' : World) : Prop where
  registries : w'.registries = w.registries
  cls : ∀ c, ∃ members, w'.cls c = { w.cls c with members } ∧ ∀ name, name ≠ "__slotnames__" →
    Assoc.get? members name = Assoc.get? (w.cls c).members name

namespace Relisted

theorem refl (w : World) : Relisted w w :=
  ⟨rfl, fun c => ⟨(w.cls c).members, rfl, fun _ _ => rfl⟩⟩

theorem trans {w w' w'' : World} (h : Relisted w w') (h' : Relisted w' w'') : Relisted w w'' where
  registries := h'.registries.trans h.registries
  cls := fun c => by
    obtain ⟨members, hc, hmembers⟩ := h.cls c
    obtain ⟨members', hc', hmembers'⟩ := h'.cls c
    refine ⟨members', by rw [hc', hc], fun name hname => ?_⟩
    rw [hmembers' name hname, hc, hmembers name hname]

variable {w w' : World} (h : Relisted w w')

include h

theorem held (objects : List Instance) (feeds : Feeds) (nextSerial : Nat) :
    Relisted w { w' with objects, feeds, nextSerial } := ⟨h.registries, h.cls⟩

theorem list (c : Nat) (m : Member) (n : Nat) :
    let members := Assoc.put (w'.cls c).members "__slotnames__" m
    Relisted w { w' with
      classes := w'.classes.set c { w'.cls c with members }, nextSerial := n } := by
  refine ⟨h.registries, fun d => ?_⟩
  obtain ⟨members, hd, hmembers⟩ := h.cls d
  by_cases hdc : d = c ∧ c < w'.classes.length
  · refine ⟨Assoc.put members "__slotnames__" m, ?_, fun name hname => ?_⟩
    · refine (cls_set w' c d _).trans ((if_pos hdc).trans ?_)
      rw [← hdc.1, hd]
    · rw [Assoc.get?_put, if_neg hname.symm, hmembers name hname]
  · exact ⟨members, ((cls_set w' c d _).trans (if_neg hdc)).trans hd, hmembers⟩

theorem keepSlots (classes : List Nat) : Relisted w (w'.keepSlots classes) := by
  unfold World.keepSlots
  dsimp only
  generalize w'.declaredSlots = slots
  induction classes generalizing w' with
  | nil => exact h
  | cons c classes ih =>
    refine ih ?_
    dsimp only
    split
    · exact h
    · exact h.list c _ _

/-- What does not depend on the members of a class is told alike. -/
theorem told {α : Type} {f : RecordClass → α} (hf : ∀ k members, f { k with members } = f k)
    (c : Nat) : f (w'.cls c) = f (w.cls c) := by
  obtain ⟨members, hc, -⟩ := h.cls c
  rw [hc, hf]

theorem ancestors (c : Nat) : w'.ancestors c = w.ancestors c :=
  h.told (f := RecordClass.ancestors) (fun _ _ => rfl) c

theorem schema? (c : Nat) : (w'.cls c).schema? = (w.cls c).schema? := h.told (fun _ _ => rfl) c

theorem isValidated (c : Nat) : w'.isValidated c = w.isValidated c := by
  rw [World.isValidated, h.ancestors, World.isValidated]

theorem ref (c : Nat) : w'.ref c = w.ref c := by
  obtain ⟨members, hc, -⟩ := h.cls c
  rw [World.ref, maker, h.isValidated, hc, World.ref, maker, RecordClass.ref, RecordClass.ref]

theorem hasVariables (c : Nat) : w'.hasVariables c = w.hasVariables c := by
  have hadds (a : Nat) : (w'.cls a).addsVariables = (w.cls a).addsVariables :=
    h.told (fun _ _ => rfl) a
  rw [World.hasVariables, h.ancestors, World.hasVariables]
  simp only [hadds]

theorem member? (c : Nat) {name : String} (hname : name ≠ "__slotnames__") :
    w'.member? c name = w.member? c name := by
  rw [World.member?, h.ancestors, World.member?]
  congr 1
  funext a
  obtain ⟨members, ha, hmembers⟩ := h.cls a
  rw [ha, hmembers name hname]

end Relisted

/-- An action that leaves a world relisted at most, whatever it returns. -/
abbrev Relists {α : Type} (w : World) (x : Action World α) : Prop :=
  Lands w.Relisted (fun _ => True) (fun _ => w.Relisted) x

section Making

variable {w : World}

theorem relists_copied (v : Value) : w.Relists (copied v) := by
  refine .getBind fun w' hw' => ?_
  refine .bind (r := fun _ _ => True) (.ofExcept (fun _ _ => trivial) fun _ _ _ _ => trivial)
    fun _ => ?_
  refine .bind (r := fun _ => w.Relisted) (.set fun _ _ => ?_) fun _ => .pure fun _ h => h
  exact (hw'.held _ _ _).keepSlots _

theorem relists_started (trusted : Bool) (f : Field) : w.Relists (started trusted f) := by
  refine .getBind fun w' hw' => .mono (p := w.Relisted) ?_ (fun _ h => h ▸ hw') (fun _ h => h)
    fun _ _ h => h
  have hcopied (v : Value) : w.Relists (do return some (f.name, ← copied v)) :=
    .bind (relists_copied v) fun _ => .pure fun _ h => h
  have hmade (v : Value) : w.Relists
      (if trusted || !(v.key w'.view).isOk then do return some (f.name, ← copied v)
        else return some (f.name, v)) :=
    .ite (fun _ => hcopied v) fun _ => .pure fun _ h => h
  cases f.start with
  | value v =>
    cases trusted with
    | true =>
      exact .bind (.mono (.liftedFault fun _ _ => trivial) (fun _ h => h) (fun _ h => h)
        fun _ _ h => h.2) fun _ => hmade v
    | false => exact hmade v
  | _ => exact .pure fun _ h => h

theorem relists_filled (trusted : Bool) (fields : List Field) (given : List (String × Value)) :
    w.Relists (filled trusted fields given) := by
  refine .bind (r := fun _ => w.Relisted) (.mapM fun f _ => ?_) fun _ => .pure fun _ h => h
  split
  · exact .pure fun _ h => h
  · exact relists_started trusted f

theorem relists_keptInstance (o : Instance) : w.Relists (keptInstance o) := by
  have hkept (v : Value) : w.Relists (kept v) :=
    lands_kept (fun w' nextSerial h => h.held w'.objects w'.feeds nextSerial) v
  refine .bind (r := fun _ => w.Relisted) (.mapM fun _ _ => ?_) fun vars => ?_
  · exact .bind (hkept _) fun _ => .bind (hkept _) fun _ => .pure fun _ h => h
  · refine .bind (r := fun _ => w.Relisted) (.mapM fun _ _ => ?_) fun slots => ?_
    · exact .bind (hkept _) fun _ => .pure fun _ h => h
    · exact .pure fun _ h => h

end Making

/-! ### Values of new objects -/

/-- An entry that stands under a text, as it is held. -/
def HeldAt (e : String × Value) (held : Value × Value) : Prop :=
  held.1 = .text e.1 ∧ e.2.HeldAs held.2

theorem lookup?_of_held {l : List (String × Value)} {es : List (Value × Value)}
    (h : List.Forall₂ HeldAt l es) {key : String} {v : Value} (hv : l.lookup key = some v) :
    ∃ held, Value.lookup? es key = some held ∧ v.HeldAs held := by
  rw [Assoc.lookup_eq_get?] at hv
  induction h with
  | nil => cases hv
  | @cons e held l es he _ ih =>
    obtain ⟨hkey, hheld⟩ := he
    rw [Assoc.get?] at hv
    rw [Value.lookup?_cons, hkey]
    by_cases hname : e.1 = key
    · rw [if_pos hname] at hv
      cases hv
      exact ⟨held.2, if_pos (congrArg some hname), hheld⟩
    · rw [if_neg hname] at hv
      have hne : (Value.text e.1).text? ≠ some key := fun heq => hname (Option.some.inj heq)
      rw [if_neg hne]
      exact ih hv

/-- What an object holds for its variables and its slots once it is kept. -/
theorem keptInstance_eq_ok {w : World} {o o' : Instance} {vars : List (String × Value)}
    (ho : o.vars = Value.entries vars) (h : (keptInstance o w).result = .ok o') :
    o'.cls = o.cls ∧ List.Forall₂ HeldAt vars o'.vars ∧
      List.Forall₂ HeldAt o.slots (Value.entries o'.slots) := by
  obtain ⟨vars', hvars, h⟩ := bind_result_eq_ok.mp h
  obtain ⟨slots', hslots, h⟩ := bind_result_eq_ok.mp h
  cases h
  have hkept {v v' : Value} {t : World} (hv : (kept v t).result = .ok v') : v.HeldAs v' := by
    cases hv
    exact ⟨_, rfl⟩
  refine ⟨rfl, ?_, ?_⟩
  · have hruns := mapM_runs hvars
    rw [ho, Value.entries, List.forall₂_map_left_iff] at hruns
    refine hruns.imp fun e e' hrun => ?_
    obtain ⟨t, ht⟩ := hrun
    obtain ⟨key, hkey, ht⟩ := bind_result_eq_ok.mp ht
    obtain ⟨v, hv, ht⟩ := bind_result_eq_ok.mp ht
    cases ht
    cases hkey
    exact ⟨rfl, hkept hv⟩
  · rw [Value.entries, List.forall₂_map_right_iff]
    refine (mapM_runs hslots).imp fun e e' hrun => ?_
    obtain ⟨t, ht⟩ := hrun
    obtain ⟨v, hv, ht⟩ := bind_result_eq_ok.mp ht
    cases ht
    exact ⟨rfl, hkept hv⟩

theorem added_eq_ok {w : World} {o : Instance} {v : Value} (h : (added o w).result = .ok v) :
    ∃ o', (keptInstance o w).result = .ok o' ∧
      v = .object (keptInstance o w).state.objects.length ((keptInstance o w).state.ref o.cls) ∧
      (added o w).state = { (keptInstance o w).state with
        objects := (keptInstance o w).state.objects ++ [o'] } := by
  obtain ⟨o', ho', hv⟩ := bind_result_eq_ok.mp h
  cases hv
  refine ⟨o', ho', rfl, ?_⟩
  rw [added, bind_state ho']
  rfl

/-- A cell for a field: what it is given, or a start value under the same name. -/
def CellOf (given : List (String × Value)) (f : Field) (cell : Option (String × Value)) : Prop :=
  (∀ v, given.lookup f.name = some v → cell = some (f.name, v)) ∧ ∀ e, cell = some e → e.1 = f.name

theorem yields_started (trusted : Bool) (f : Field) :
    Yields (fun cell => ∀ e : String × Value, cell = some e → e.1 = f.name)
      (started trusted f) := by
  have hsome (v : Value) : ∀ e, some (f.name, v) = some e → e.1 = f.name := by
    rintro _ ⟨⟩
    rfl
  refine .bind (.any _) fun w _ => ?_
  cases f.start with
  | value v =>
    have hmade : Yields (fun cell => ∀ e : String × Value, cell = some e → e.1 = f.name)
        (if trusted || !(v.key w.view).isOk then do return some (f.name, ← copied v)
          else return some (f.name, v) : Action World (Option (String × Value))) :=
      .ite (fun _ => .bind (.any _) fun v _ => .pure (hsome v)) fun _ => .pure (hsome v)
    cases trusted with
    | true => exact .bind (.any _) fun _ _ => hmade
    | false => exact hmade
  | _ =>
    refine .pure fun e he => ?_
    obtain ⟨v, -, rfl⟩ := Option.map_eq_some_iff.mp he
    rfl

/-- What is given for a field takes the place of its start value. -/
theorem filled_eq_ok {w : World} {trusted : Bool} {fields : List Field}
    {given vars : List (String × Value)} (h : (filled trusted fields given w).result = .ok vars)
    {name : String} (hname : name ∈ fieldNames fields) {v : Value}
    (hv : given.lookup name = some v) : vars.lookup name = some v := by
  obtain ⟨cells, hcells, hvars⟩ := bind_result_eq_ok.mp h
  cases hvars
  have hof : List.Forall₂ (CellOf given) fields cells := by
    refine (mapM_runs hcells).imp fun f cell ⟨t, ht⟩ => ?_
    cases hf : given.lookup f.name with
    | some v =>
      rw [hf] at ht
      cases ht
      refine ⟨fun v' hv' => ?_, fun e he => ?_⟩
      · rw [hf] at hv'
        cases hv'
        rfl
      · cases he
        rfl
    | none =>
      rw [hf] at ht
      refine ⟨fun v' hv' => ?_, yields_started trusted f t cell ht⟩
      rw [hf] at hv'
      cases hv'
  clear h hcells
  rw [Assoc.lookup_eq_get?]
  induction hof with
  | nil => cases hname
  | @cons f cell fields cells hcell _ ih =>
    obtain ⟨hgiven, hstart⟩ := hcell
    by_cases hf : f.name = name
    · subst hf
      rw [hgiven v hv]
      exact if_pos rfl
    · have hname := (List.mem_cons.mp hname).resolve_left (Ne.symm hf)
      cases hc : cell with
      | none => exact ih hname
      | some e =>
        have hne : e.1 ≠ name := fun heq => hf ((hstart e hc).symm.trans heq)
        exact (if_neg hne).trans (ih hname)

/-! ### Validated classes -/

/-- A validated class whose objects have their variables, their class and the slots of all validated
objects, tell the fields they were given, and are read by no rule of their own. -/
structure Modelled (w : World) (c : Nat) (schema : Schema) : Prop where
  validated : w.isValidated c = true
  schema : (w.cls c).schema? = some schema
  spacious : w.hasVariables c = true
  told : w.member? c "__dict__" = some .ownVariables
  kind : w.member? c "__class__" = some .classLink
  slots : ∀ slot ∈ [givenSlot, extraSlot, hiddenSlot], w.member? c slot = some .slot
  given : w.member? c "model_fields_set" = some .fieldsGiven
  reads : ∃ r owner, w.member? c "__getattribute__" = some (.routine r owner)

/-- An object of some trusted values: it holds each value for a field, and tells which fields it was
given. -/
structure Revived (c : Nat) (schema : Schema) (values : List (String × Value)) (o : Instance) :
    Prop where
  cls : o.cls = c
  vars : ∀ name ∈ fieldNames schema.fields, ∀ v, values.lookup name = some v →
    ∃ held, o.own? name = some held ∧ v.HeldAs held
  given : ∃ n, Assoc.get? o.slots givenSlot =
    some (.set ((givenNames schema.fields values).map .text) n)

namespace Modelled

variable {w : World} {c : Nat} {schema : Schema} (h : w.Modelled c schema)

include h

theorem relisted {w' : World} (hw : w.Relisted w') : w'.Modelled c schema where
  validated := (hw.isValidated c).trans h.validated
  schema := (hw.schema? c).trans h.schema
  spacious := (hw.hasVariables c).trans h.spacious
  told := (hw.member? c (by decide)).trans h.told
  kind := (hw.member? c (by decide)).trans h.kind
  slots := fun slot hslot => by
    have hlist : "__slotnames__" ∉ [givenSlot, extraSlot, hiddenSlot] := by decide
    have hne : slot ≠ "__slotnames__" := fun heq => hlist (heq ▸ hslot)
    rw [hw.member? c hne, h.slots slot hslot]
  given := (hw.member? c (by decide)).trans h.given
  reads := by
    obtain ⟨r, owner, hr⟩ := h.reads
    exact ⟨r, owner, (hw.member? c (by decide)).trans hr⟩

/-! ### Setting -/

theorem setPlain_vars {e : Edited} (he : e.object.cls = c) (vars : List (String × Value)) :
    w.setPlain "__dict__" (dictOf vars) e =
      ⟨.ok (), { e with object := { e.object with vars := Value.entries vars } }, []⟩ := by
  rw [setPlain, current_bind_run, he, h.told]
  dsimp only
  rw [replaceVariables, current_bind_run, he, h.spacious]
  rfl

theorem setPlain_slot {e : Edited} (he : e.object.cls = c) {slot : String}
    (hslot : slot ∈ [givenSlot, extraSlot, hiddenSlot]) (v : Value) :
    w.setPlain slot v e = ⟨.ok (), { e with object := e.object.withSlot slot v }, []⟩ := by
  rw [setPlain, current_bind_run, he, h.slots slot hslot]
  rfl

theorem setPlain_slots {e : Edited} (he : e.object.cls = c) {held : List (String × Value)}
    (hheld : ∀ p ∈ held, p.1 ∈ [givenSlot, extraSlot, hiddenSlot]) :
    held.forM (fun p => w.setPlain p.1 p.2) e =
      ⟨.ok (), { e with object := held.foldl (fun o p => o.withSlot p.1 p.2) e.object }, []⟩ := by
  induction held generalizing e with
  | nil => rfl
  | cons p held ih =>
    obtain ⟨hslot, hheld⟩ := List.forall_mem_cons.mp hheld
    show (w.setPlain p.1 p.2 >>= fun _ => held.forM fun p => w.setPlain p.1 p.2) e = _
    rw [bind_run_ok (h.setPlain_slot he hslot p.2),
      ih (e := { e with object := e.object.withSlot p.1 p.2 }) he hheld]
    rfl

/-- A new object takes its variables and what its slots hold. -/
theorem changed_run (vars : List (String × Value)) {held : List (String × Value)}
    (hheld : ∀ p ∈ held, p.1 ∈ [givenSlot, extraSlot, hiddenSlot]) :
    changed c ((("__dict__", dictOf vars) :: held).forM fun p => w.setPlain p.1 p.2) w =
      ⟨.ok (held.foldl (fun o p => o.withSlot p.1 p.2) ⟨c, Value.entries vars, []⟩), w, []⟩ := by
  have hvars := h.setPlain_vars (e := ⟨⟨c, [], []⟩, w, none⟩) rfl vars
  have hslots := h.setPlain_slots (e := ⟨⟨c, Value.entries vars, []⟩, w, none⟩) rfl hheld
  have hrun : (("__dict__", dictOf vars) :: held).forM (fun p => w.setPlain p.1 p.2)
      ⟨⟨c, [], []⟩, w, none⟩ =
        (w.setPlain "__dict__" (dictOf vars) >>= fun _ => held.forM fun p => w.setPlain p.1 p.2)
          ⟨⟨c, [], []⟩, w, none⟩ := rfl
  rw [changed, continued, hrun, bind_run_ok hvars, hslots]
  rfl

/-- What is done to a finished object changes none of its variables and not the fields it was
given. -/
theorem finished_eq_ok {vars told : List (String × Value)} {given extra hidden : Value}
    {o : Instance} (ho : (finished c schema [("__dict__", dictOf vars), (givenSlot, given),
      (extraSlot, extra), (hiddenSlot, hidden)] told w).result = .ok o) :
    (o.cls = c ∧ o.vars = Value.entries vars ∧ Assoc.get? o.slots givenSlot = some given) ∧
      w.Relisted (finished c schema [("__dict__", dictOf vars), (givenSlot, given),
        (extraSlot, extra), (hiddenSlot, hidden)] told w).state := by
  have hslots : ∀ p ∈ [(givenSlot, given), (extraSlot, extra), (hiddenSlot, hidden)],
      p.1 ∈ [givenSlot, extraSlot, hiddenSlot] := by simp
  rw [finished, get_bind_run, bind_run_ok (h.changed_run vars hslots)] at ho ⊢
  obtain ⟨_, hchecked, ho⟩ := bind_result_eq_ok.mp ho
  dsimp only
  rw [bind_state hchecked]
  split at ho
  · rename_i hnone
    rw [if_pos hnone]
    cases ho
    exact ⟨⟨rfl, rfl, rfl⟩, .refl w⟩
  · rename_i hsome
    rw [if_neg hsome]
    obtain ⟨v, hv, ho⟩ := bind_result_eq_ok.mp ho
    have hhidden : w.Relists (hiddenValues schema told) :=
      .bind (relists_filled _ _ _) fun _ => .pure fun _ h => h
    have hslot : hiddenSlot ∈ [givenSlot, extraSlot, hiddenSlot] := by decide
    rw [bind_state hv]
    rw [continued, h.setPlain_slot rfl hslot] at ho ⊢
    cases ho
    exact ⟨⟨rfl, rfl, rfl⟩, (hhidden w (.refl w)).result v hv⟩

/-! ### Objects of values -/

variable {values : List (String × Value)} (hvalues : ∀ e ∈ values, isUnderscored e.1 = false)

include hvalues

theorem revive_eq_ok {o : Instance} (ho : (revive c schema values w).result = .ok o) :
    (o.cls = c ∧ (∃ vars, o.vars = Value.entries vars ∧ ∀ name ∈ fieldNames schema.fields, ∀ v,
        values.lookup name = some v → vars.lookup name = some v) ∧
      Assoc.get? o.slots givenSlot =
        some (.set ((givenNames schema.fields values).map .text))) ∧
      w.Relisted (revive c schema values w).state := by
  have hne : ∀ e ∈ values, e.1 ≠ "_fields_set" := by
    intro e he heq
    have hopen := hvalues e he
    rw [heq] at hopen
    cases hopen
  have htold : values.lookup "_fields_set" = none :=
    List.lookup_eq_none_iff.mpr fun e he => bne_iff_ne.mpr (hne e he).symm
  have hall : values.filter (fun e => e.1 ≠ "_fields_set") = values :=
    List.filter_eq_self.mpr fun e he => decide_eq_true (hne e he)
  have hrun : revive c schema values = (do
      let vars ← filled true schema.fields values
      finished c schema [("__dict__", dictOf vars),
        (givenSlot, .set ((givenNames schema.fields values).map .text)),
        (extraSlot, if schema.extra = .allow then dictOf (beyond schema.fields values) else .null),
        (hiddenSlot, .null)] (beyond schema.fields values)) := by
    rw [revive, htold, hall]
    rfl
  rw [hrun] at ho ⊢
  obtain ⟨vars, hvars, ho⟩ := bind_result_eq_ok.mp ho
  have hlist := (relists_filled true schema.fields values w (.refl w)).result vars hvars
  obtain ⟨⟨hcls, hown, hgiven⟩, hlater⟩ := (h.relisted hlist).finished_eq_ok ho
  rw [bind_state hvars]
  refine ⟨⟨hcls, ⟨vars, hown, fun name hname v hv => filled_eq_ok hvars hname hv⟩, hgiven⟩, ?_⟩
  exact hlist.trans hlater

theorem assemble_eq_ok {source : Value} (hs : (assemble c values w).result = .ok source) :
    w.Relisted (assemble c values w).state ∧ ∃ i o, source = .object i (w.ref c) ∧
      (assemble c values w).state.object? i = some o ∧ Revived c schema values o := by
  rw [assemble_validated h.validated h.schema, liftM_fault_bind_run] at hs ⊢
  cases hchecked : w.checkReviving c values with
  | error f =>
    rw [hchecked] at hs
    cases hs
  | ok =>
    rw [hchecked] at hs
    dsimp only at hs ⊢
    obtain ⟨o, ho, hs⟩ := bind_result_eq_ok.mp hs
    obtain ⟨⟨hcls, ⟨vars, hown, hvars⟩, hgiven⟩, hlist⟩ := h.revive_eq_ok hvalues ho
    obtain ⟨o', ho', hsource, hstate⟩ := added_eq_ok hs
    obtain ⟨hcls', hheld, hslots⟩ := keptInstance_eq_ok hown ho'
    have hkept := (relists_keptInstance o _ hlist).result o' ho'
    rw [bind_state ho, hstate]
    refine ⟨hkept.held _ _ _, _, o', ?_, List.getElem?_concat_length, hcls'.trans hcls, ?_, ?_⟩
    · rw [hsource, hkept.ref, hcls]
    · exact fun name hname v hv => lookup?_of_held hheld (hvars name hname v hv)
    · rw [← Assoc.lookup_eq_get?] at hgiven ⊢
      rw [← Value.lookup?_entries_eq]
      obtain ⟨held, hlookup, n, rfl⟩ := lookup?_of_held hslots hgiven
      rw [Value.numbered_texts] at hlookup
      exact ⟨n, hlookup⟩

end Modelled

end World

end RecordSql
