import RecordSql.World.Mapping
import RecordSql.Proofs.Alongside
import RecordSql.Proofs.World.Exchange

/-! Objects are made without a look at the registries: what makes them does the same in the world
with other registries, and leaves these as they are. An object of trusted values is made so whatever
its class is, and any other one if its class does not validate. -/

namespace RecordSql

namespace World

open RecordSql.Action (Alongside)

/-! ### Changes of one object -/

/-- An object that is changed in the world with other registries. -/
def Edited.upon (e : Edited) (registries : List Registry) : Edited :=
  { e with world := e.world.upon registries }

/-- What is changed is an object of a class, in a world with a property. -/
def Edits (c : Nat) (p : World → Prop) (e : Edited) : Prop := e.object.cls = c ∧ p e.world

/-- A class whose objects are not validated when they are set. -/
def Loose (w : World) (c : Nat) : Prop := (w.cls c).schema? = none ∨ w.isValidated c = false

section Changes

variable (w : World) {registries : List Registry} {c : Nat} {p : World → Prop}

theorem upon_leaveTo : (w.upon registries).leaveTo = w.leaveTo := by
  funext v rule
  unfold leaveTo
  rw [upon_rules]

theorem upon_setPlain : (w.upon registries).setPlain = w.setPlain := by
  funext attr v
  unfold setPlain
  rw [upon_leaveTo]
  rfl

theorem upon_setLoose : (w.upon registries).setLoose = w.setLoose := by
  have hby (attr : String) (v : Value) (l : List Nat) :
      (w.upon registries).setBy (fun _ => w.setPlain attr v) attr v l =
        w.setBy (fun _ => w.setPlain attr v) attr v l := by
    induction l with
    | nil =>
      unfold setBy
      rw [upon_setPlain]
    | cons c l ih =>
      unfold setBy
      rw [ih, upon_setPlain, upon_ofMember, upon_uncallable]
      rfl
  funext attr v
  unfold setLoose
  rw [upon_setPlain]
  simp only [hby]
  rfl

/-- A change that does the same in the world with other registries. -/
abbrev Undisturbed (registries : List Registry) (c : Nat) (p : World → Prop)
    (x y : Change) : Prop :=
  Alongside (Edited.upon · registries) (Edits c p) x y fun _ => Edits c p

theorem alongside_current : Alongside (Edited.upon · registries) (Edits c p) current current
    fun o e => o.cls = c ∧ Edits c p e := fun _ he => ⟨rfl, fun _ ho => by
  cases ho
  exact ⟨he.1, he⟩⟩

theorem alongside_replace {o : Instance} (ho : o.cls = c) :
    Undisturbed registries c p (replace o) (replace o) :=
  fun _ he => ⟨rfl, fun _ _ => ⟨ho, he.2⟩⟩

theorem alongside_leaveTo (v : Value) (rule : String) :
    Undisturbed registries c p (w.leaveTo v rule) (w.leaveTo v rule) := by
  unfold leaveTo
  split
  · split
    · exact .faulty _
    · exact .ofExcept fun _ _ _ he => he
  · exact .pure _

theorem alongside_replaceVariables (v : Value) :
    Undisturbed registries c p (w.replaceVariables v) (w.replaceVariables v) := by
  refine .bind alongside_current fun o => .given fun ho => ?_
  split
  · exact .faulty _
  · split
    · exact alongside_replace ho
    · exact .faulty _

theorem alongside_setPlain (attr : String) (v : Value) :
    Undisturbed registries c p (w.setPlain attr v) (w.setPlain attr v) := by
  refine .bind alongside_current fun o => .given fun ho => ?_
  dsimp only
  split
  · exact alongside_replace ho
  · exact .faulty _
  · exact .faulty _
  · exact alongside_replaceVariables w v
  · split
    · exact alongside_leaveTo w _ _
    · exact .ite (fun _ => .faulty _) fun _ =>
        .ite (fun _ => alongside_replace ho) fun _ => .faulty _

theorem alongside_setLoose (attr : String) (v : Value) :
    Undisturbed registries c p (w.setLoose attr v) (w.setLoose attr v) := by
  refine .bind alongside_current fun o => .given fun _ => ?_
  induction w.ancestors o.cls with
  | nil => exact alongside_setPlain w attr v
  | cons a l ih =>
    refine .bind alongside_current fun o => .given fun _ => ?_
    dsimp only
    split
    · exact ih
    · exact .ite (fun _ => .faulty _) fun _ => ih
    · exact .ite (fun _ => alongside_setPlain w attr v) fun _ => alongside_setPlain w attr v
    · exact alongside_setPlain w attr v
    · exact .bind (.lifted _) fun _ => .faulty _

theorem current_bind_run {α : Type} (g : Instance → Action Edited α) (e : Edited) :
    (current >>= g) e = g e.object e := rfl

variable {w}

theorem setInstance_loose {e : Edited} (he : w.Loose e.object.cls) (attr : String) (v : Value) :
    w.setInstance attr v e = w.setLoose attr v e := by
  have hby (l : List Nat) (hl : (w.cls e.object.cls).schema? = none ∨ validator ∉ l) :
      w.setBy (w.setValidated · attr v) attr v l e =
        w.setBy (fun _ => w.setPlain attr v) attr v l e := by
    induction l with
    | nil => rfl
    | cons a l ih =>
      have ih := ih (hl.imp_right fun h ha => h (List.mem_cons_of_mem _ ha))
      rw [setBy, setBy, current_bind_run, current_bind_run]
      cases Assoc.get? (w.cls a).members "__setattr__" with
      | none => exact ih
      | some m =>
        cases m with
        | routine r owner =>
          cases (w.cls a).fields? with
          | some fields =>
            show (ite (_ = _) _ _ : Action Edited Unit) e = (ite (_ = _) _ _ : Action Edited Unit) e
            rw [Action.ite_run, Action.ite_run, ih]
          | none =>
            cases hs : (w.cls e.object.cls).schema? with
            | none => rfl
            | some schema =>
              have ha : a ≠ validator := by
                rintro rfl
                rcases hl with h | h
                · rw [h] at hs
                  cases hs
                · exact h List.mem_cons_self
              exact congrFun ((if_neg ha).trans (if_neg ha).symm) e
        | _ => rfl
  refine hby _ (he.imp_right fun h => ?_)
  simpa [isValidated] using h

theorem alongside_setInstance (hc : w.Loose c) (attr : String) (v : Value) :
    Undisturbed registries c p (w.setInstance attr v) ((w.upon registries).setInstance attr v) := by
  intro e he
  have he' : w.Loose e.object.cls := he.1 ▸ hc
  rw [setInstance_loose he',
    setInstance_loose (w := w.upon registries) (e := e.upon registries) he', upon_setLoose]
  exact alongside_setLoose w attr v e he

theorem alongside_initialise (hc : w.Loose c) (fields : List Field) (frozen : Bool)
    (args : Assoc String Value) : Undisturbed registries c p (w.initialise fields frozen args)
      ((w.upon registries).initialise fields frozen args) := by
  have hvalue : (w.upon registries).fieldValue = w.fieldValue := by
    funext args f
    unfold fieldValue
    rw [upon_rules]
  have hsetting : (w.upon registries).settingFault = w.settingFault := by
    funext v
    unfold settingFault
    rw [upon_read, upon_rules]
    rfl
  unfold initialise
  rw [hvalue, hsetting, upon_setPlain]
  refine .forM (fun f => .ite (fun _ => ?_) fun _ => ?_) _
  · refine .bind (.lifted _) fun fault? => .bind (.lifted _) fun v => ?_
    split
    · exact .faulty _
    · exact alongside_setPlain w _ _
  · exact .bind (.lifted _) fun v => alongside_setInstance hc _ _

end Changes

/-! ### The making of objects -/

/-- A property of worlds with named markers that is kept where objects, feeds and serial numbers are
added, and where classes keep the lists of their slots. -/
structure Lasting (p : World → Prop) : Prop where
  named : ∀ w, p w → w.Named
  held : ∀ w objects feeds nextSerial, p w → p { w with objects, feeds, nextSerial }
  slots : ∀ w classes, p w → p (w.keepSlots classes)

section Making

variable {registries : List Registry} {p : World → Prop}

theorem alongside_kept (hp : ∀ w n, p w → p { w with nextSerial := n }) (v : Value) :
    Alongside (World.upon · registries) p (kept v) (kept v) fun _ => p :=
  fun w hw => ⟨rfl, fun _ _ => hp w _ hw⟩

theorem alongside_keptInstance (hp : Lasting p) (o : Instance) :
    Alongside (World.upon · registries) p (keptInstance o) (keptInstance o)
      fun o' w => o'.cls = o.cls ∧ p w := by
  have hkept (v : Value) : Alongside (World.upon · registries) p (kept v) (kept v) fun _ => p :=
    alongside_kept (fun w n => hp.held w w.objects w.feeds n) v
  refine .bind (.mapM (fun e => ?_) _) fun vars => .bind (.mapM (fun e => ?_) _) fun slots => ?_
  · exact .bind (hkept _) fun _ => .bind (hkept _) fun _ => .pure _
  · exact .bind (hkept _) fun _ => .pure _
  · exact .done fun _ h => ⟨rfl, h⟩

/-- The reference to a new object, which is of the class. -/
theorem alongside_added (hp : Lasting p) (o : Instance) :
    Alongside (World.upon · registries) p (added o) (added o) fun v w =>
      ∃ i t o', v = .object i t ∧ w.object? i = some o' ∧ o'.cls = o.cls ∧ p w := by
  refine .bind (alongside_keptInstance hp o) fun o' => .given fun ho => ?_
  intro w hw
  refine ⟨rfl, ?_⟩
  rintro v hv
  cases hv
  refine ⟨_, _, o', rfl, ?_, ho, hp.held w _ w.feeds w.nextSerial hw⟩
  show (w.objects ++ [o'])[w.objects.length]? = some o'
  exact List.getElem?_concat_length

theorem alongside_continued {o : Instance} {x y : Change}
    (hx : Undisturbed registries o.cls p x y) :
    Alongside (World.upon · registries) p (continued o x) (continued o y)
      fun o' w => o'.cls = o.cls ∧ p w := by
  intro w hw
  obtain ⟨hx, hq⟩ := hx { object := o, world := w } ⟨rfl, hw⟩
  let told (t : Outcome Edited Unit) : Outcome World Instance :=
    ⟨t.result.map fun _ => t.state.object, t.state.world, t.log⟩
  refine ⟨congrArg told hx, fun o' ho => ?_⟩
  obtain ⟨_, hr, rfl⟩ := map_eq_ok.mp ho
  exact hq _ hr

theorem alongside_changed {c : Nat} {x y : Change} (hx : Undisturbed registries c p x y) :
    Alongside (World.upon · registries) p (changed c x) (changed c y)
      fun o w => o.cls = c ∧ p w := alongside_continued hx

/-- A change of an object that is held. -/
theorem alongside_changing {i c : Nat} {x y : Change}
    (hp : ∀ w objects, p w → p { w with objects })
    (hx : Undisturbed registries c (fun w => i < w.objects.length ∧ p w) x y) :
    Alongside (World.upon · registries) (fun w => (∃ o, w.object? i = some o ∧ o.cls = c) ∧ p w)
      (changing i x) (changing i y)
      fun _ w => (∃ o, w.object? i = some o ∧ o.cls = c) ∧ p w := by
  rintro w ⟨⟨o, ho, hc⟩, hw⟩
  have hi : i < w.objects.length := (List.getElem?_eq_some_iff.mp ho).1
  let told (t : Outcome Edited Unit) : Outcome World Unit :=
    ⟨t.result, { t.state.world with objects := t.state.world.objects.set i t.state.object }, t.log⟩
  obtain ⟨hx, hq⟩ := hx ⟨(w.object? i).getD { cls := root }, w, some i⟩
    ⟨by rw [ho]; exact hc, hi, hw⟩
  refine ⟨congrArg told hx, fun a hr => ?_⟩
  obtain ⟨hcls, hlt, hpw⟩ := hq a hr
  exact ⟨⟨_, List.getElem?_set_self hlt, hcls⟩, hp _ _ hpw⟩

theorem alongside_setAttr {i c : Nat} (hp : Lasting p) (hl : ∀ w, p w → w.Loose c) (t : ClassRef)
    (attr : String) (v : Value) :
    Alongside (World.upon · registries) (fun w => (∃ o, w.object? i = some o ∧ o.cls = c) ∧ p w)
      (setAttr (.object i t) attr v) (setAttr (.object i t) attr v)
      fun _ w => (∃ o, w.object? i = some o ∧ o.cls = c) ∧ p w := by
  refine .bind (alongside_kept (fun w n hw => ⟨hw.1, hp.held w _ w.feeds n hw.2⟩) v) fun v =>
    .getBind fun w hw => ?_
  refine (alongside_changing (fun w objects => hp.held w objects w.feeds w.nextSerial)
    (alongside_setInstance (hl w hw.2) attr v)).mono (fun _ h => h.2) fun _ _ h => h

theorem upon_checkMaking {w : World} (hw : w.Named) (c : Nat) (isGiven : Bool) :
    (w.upon registries).checkMaking c isGiven = w.checkMaking c isGiven := by
  unfold checkMaking leftOpen
  rw [readClass_upon _ hw, upon_view, upon_uncallable, Objects.sorted_worded]
  rfl

theorem upon_checkStarted (w : World) : (w.upon registries).checkStarted = w.checkStarted := by
  funext a o
  unfold checkStarted
  rw [upon_uncallable, upon_readInstance]
  rfl

/-- A new object of a class without validation. -/
theorem alongside_construct {c : Nat} (hp : Lasting p) (hl : ∀ w, p w → w.Loose c) :
    Alongside (World.upon · registries) p (construct c .none) (construct c .none)
      fun o w => o.cls = c ∧ p w := by
  refine .getBind fun w hw => ?_
  rw [upon_checkMaking (hp.named w hw), upon_applyRule, upon_checkStarted]
  refine .mono (p := p) ?_ (fun _ h => h.2) fun _ _ h => h
  refine .bind (.lifted _) fun _ => .bind (.lifted _) fun _ => ?_
  have hmember : (w.upon registries).owner? = w.owner? := rfl
  have hcls : (w.upon registries).cls = w.cls := rfl
  rw [hmember, hcls]
  cases ha : (w.owner? c "__init__").map (·.1) with
  | none => exact .done fun _ h => ⟨rfl, h⟩
  | some a =>
    have hplain : a = validator → (w.cls c).schema? = none := by
      rintro rfl
      refine (hl w hw).resolve_right fun hv => ?_
      obtain ⟨found, hfound, ha⟩ := Option.map_eq_some_iff.mp ha
      obtain ⟨b, hb, hm⟩ := List.exists_of_findSome?_eq_some hfound
      obtain ⟨m, -, rfl⟩ := Option.map_eq_some_iff.mp hm
      obtain rfl : b = validator := ha
      simp [isValidated, hb] at hv
    have hrest (x : Action World Instance) (hx : a = validator → x = return { cls := c }) :
        Alongside (World.upon · registries) p (if a = validator then x else return { cls := c })
          (if a = validator then x else return { cls := c }) fun o w => o.cls = c ∧ p w :=
      .ite (fun ha => hx ha ▸ .done fun _ h => ⟨rfl, h⟩) fun _ => .done fun _ h => ⟨rfl, h⟩
    dsimp only
    cases (w.cls a).shape with
    | fielded fields frozen =>
      refine .bind (.lifted _) fun args => .bind
        (alongside_changed (alongside_initialise (hl w hw) _ _ _)) fun o => ?_
      exact .given fun ho => .bind (.lifted _) fun _ => .done fun _ h => ⟨ho, h⟩
    | _ => exact hrest _ fun ha => by rw [hplain ha]; rfl

/-! ### Copies -/

theorem upon_ownAttribute? (w : World) : (w.upon registries).ownAttribute? = w.ownAttribute? := by
  funext o name
  unfold ownAttribute?
  rw [upon_readInstance]

theorem upon_requireHelper (w : World) : (w.upon registries).requireHelper = w.requireHelper := by
  funext o name
  unfold requireHelper
  rw [upon_readInstance, upon_rules]
  rfl

theorem upon_helps (w : World) : (w.upon registries).helps = w.helps := by
  funext o name
  unfold helps
  rw [upon_ownAttribute?, upon_requireHelper]

theorem upon_offers (w : World) : (w.upon registries).offers = w.offers := by
  funext o name
  unfold offers
  rw [upon_ownAttribute?, upon_helps]

theorem upon_checkParts {w : World} (hw : w.Named) :
    (w.upon registries).checkParts = w.checkParts := by
  funext o
  unfold checkParts checkApart checkArguments
  rw [upon_offers, upon_ownAttribute?, upon_requireHelper, upon_uncallable, upon_ofMember]
  simp only [readClass_upon registries hw, (agree_upon w registries).truth]
  rfl

theorem upon_validatedPlan (w : World) : (w.upon registries).validatedPlan = w.validatedPlan := by
  funext o
  unfold validatedPlan
  rw [upon_readInstance, upon_ownAttribute?, upon_entriesOf, upon_setPlain]

theorem upon_takeVariables (w : World) : (w.upon registries).takeVariables = w.takeVariables := by
  funext vars
  unfold takeVariables
  rw [upon_readInstance, upon_setPlain, upon_calling]
  rfl

theorem upon_plainPlan (w : World) : (w.upon registries).plainPlan = w.plainPlan := by
  funext o
  unfold plainPlan slotParts
  rw [upon_ownAttribute?, upon_helps, upon_setLoose, upon_takeVariables]
  rfl

theorem upon_copyPlan {w : World} (hw : w.Named) : (w.upon registries).copyPlan = w.copyPlan := by
  funext o
  unfold copyPlan
  rw [upon_offers, upon_checkParts hw, upon_validatedPlan, upon_plainPlan, upon_helps]
  rfl

section Taking

variable {w : World} {o : Instance} {plan : CopyPlan} {c : Nat} {p : World → Prop}

theorem alongside_takeVariables (vars : Value) :
    Undisturbed registries c p (w.takeVariables vars) (w.takeVariables vars) := by
  refine .bind alongside_current fun o => .given fun _ => .bind (.lifted _) fun held => ?_
  split
  · split
    · exact alongside_setPlain w _ _
    · exact .pure _
  · exact .ofExcept fun _ _ _ h => h

theorem alongside_validatedPlan (h : w.validatedPlan o = .ok plan) (copy : Value → Value) :
    Undisturbed registries c p (plan.taking copy) (plan.taking copy) := by
  obtain ⟨vars, -, h⟩ := bind_eq_ok.mp h
  obtain ⟨extra, -, h⟩ := bind_eq_ok.mp h
  obtain ⟨given, -, h⟩ := bind_eq_ok.mp h
  obtain ⟨hidden, -, h⟩ := bind_eq_ok.mp h
  obtain ⟨hidden, rfl⟩ : ∃ hidden, plan = ⟨[vars, extra, hidden, given], fun copy => do
      w.setPlain "__dict__" (copy vars)
      w.setPlain extraSlot (copy extra)
      w.setPlain givenSlot (copy given)
      w.setPlain hiddenSlot (copy hidden)⟩ := by
    dsimp only at h
    split at h
    · obtain ⟨_, -, h⟩ := bind_eq_ok.mp h
      exact ⟨_, (Except.ok.inj h).symm⟩
    · exact ⟨_, (Except.ok.inj h).symm⟩
  exact .bind (alongside_setPlain w _ _) fun _ => .bind (alongside_setPlain w _ _) fun _ =>
    .bind (alongside_setPlain w _ _) fun _ => alongside_setPlain w _ _

theorem alongside_helped {x : Change} (hx : Undisturbed registries c p x x) :
    Undisturbed registries c p (do
      let _ ← w.helps (← current) "__setstate__"
      x) (do
      let _ ← w.helps (← current) "__setstate__"
      x) :=
  .bind alongside_current fun _ => .given fun _ => .bind (.lifted _) fun _ => hx

theorem alongside_plainPlan (h : w.plainPlan o = .ok plan) (copy : Value → Value) :
    Undisturbed registries c p (plan.taking copy) (plan.taking copy) := by
  obtain ⟨slots, -, h⟩ := bind_eq_ok.mp h
  cases h
  have hslots : Undisturbed registries c p (slots.forM fun e => w.setLoose e.1 (copy e.2))
      (slots.forM fun e => w.setLoose e.1 (copy e.2)) :=
    .forM (fun e => alongside_setLoose w _ _) _
  refine .ite (fun _ => .pure _) fun _ => alongside_helped ?_
  exact .ite (fun _ => .bind (alongside_takeVariables _) fun _ => hslots) fun _ => hslots

/-- An object takes its copies in the same way. -/
theorem alongside_taking (h : w.copyPlan o = .ok plan) (copy : Value → Value) :
    Undisturbed registries c p (plan.taking copy) (plan.taking copy) := by
  obtain ⟨isOffered, -, h⟩ := bind_eq_ok.mp h
  split at h
  · exact alongside_validatedPlan h copy
  · obtain ⟨_, -, h⟩ := bind_eq_ok.mp h
    split at h
    · exact alongside_plainPlan h copy
    · obtain ⟨plan, hplan, h⟩ := bind_eq_ok.mp h
      cases h
      exact alongside_helped (alongside_validatedPlan hplan copy)

end Taking

theorem upon_find {w : World} (hw : w.Named) : (w.upon registries).find = w.find := by
  funext depth
  induction depth with
  | zero => rfl
  | succ depth ih =>
    funext r
    unfold find
    rw [ih, upon_copyPlan hw]
    refine bind_congr fun seen => ?_
    split
    · rfl
    · refine bind_congr fun _ => ?_
      cases r with
      | collection _ | feed _ => rfl
      | object i =>
        refine Action.liftM_fault_bind_congr fun plan hplan => ?_
        refine bind_congr fun _ => bind_congr fun c => ?_
        let cls := ((w.object? i).getD { cls := root }).cls
        have htaking : Undisturbed registries cls (fun _ => True) _ _ :=
          alongside_taking hplan (Value.renamed (w.copyNumbers c.found))
        obtain ⟨hcopy, -⟩ := htaking { object := { cls }, world := w } ⟨rfl, trivial⟩
        let held (o : Outcome Edited Unit) : Action Copies Unit := do
          Action.ofExcept o.result
          Action.set { c with made := c.made ++ [(i, o.state.object)] }
        have hheld := congrArg held hcopy
        exact hheld

theorem upon_keepSlots (w : World) (classes : List Nat) :
    (w.upon registries).keepSlots classes = (w.keepSlots classes).upon registries := by
  refine List.foldl_hom (World.upon · registries) fun v c => ?_
  dsimp only
  by_cases h : Assoc.contains (v.cls c).members "__slotnames__" = true
  · rw [if_pos h]
    exact if_pos h
  · rw [if_neg h]
    exact if_neg h

theorem upon_tellsSlots (w : World) : (w.upon registries).tellsSlots = w.tellsSlots := by
  funext o
  unfold tellsSlots
  rw [upon_offers]
  rfl

theorem alongside_copied (hp : Lasting p) (v : Value) :
    Alongside (World.upon · registries) p (copied v) (copied v) fun _ => p := by
  refine .getBind fun w hw => ?_
  rw [upon_find (hp.named w hw), upon_tellsSlots]
  dsimp only
  refine .bind (.ofExcept fun _ _ _ h => h) fun _ => .bind (q := fun _ => p) ?_ fun _ => .pure _
  exact .set (upon_keepSlots { w with objects := _, feeds := _, nextSerial := _ } _)
    (hp.slots _ _ (hp.held w _ _ _ hw))

/-! ### Validated objects of trusted values -/

theorem upon_checkTrusted (w : World) : (w.upon registries).checkTrusted = w.checkTrusted := by
  funext v
  unfold checkTrusted
  simp only [upon_attributeOf, (agree_upon w registries).truth, (agree_upon w registries).key_eq]

theorem alongside_started (hp : Lasting p) (f : Field) :
    Alongside (World.upon · registries) p (started true f) (started true f) fun _ => p := by
  refine .getBind fun w hw => .mono (p := p) ?_ (fun _ h => h.2) fun _ _ h => h
  have hcopied (v : Value) : Alongside (World.upon · registries) p
      (do return some (f.name, ← copied v)) (do return some (f.name, ← copied v)) fun _ => p :=
    .bind (alongside_copied hp v) fun _ => .pure _
  rw [upon_checkTrusted]
  cases f.start with
  | value v => exact .bind (.lifted _) fun _ => hcopied v
  | _ => exact .pure _

theorem alongside_filled (hp : Lasting p) (fields : List Field) (given : List (String × Value)) :
    Alongside (World.upon · registries) p (filled true fields given) (filled true fields given)
      fun _ => p := by
  refine .bind (.mapM (fun f => ?_) _) fun _ => .pure _
  split
  · exact .pure _
  · exact alongside_started hp f

theorem alongside_finished (hp : Lasting p) (c : Nat) (schema : Schema)
    (held told : List (String × Value)) :
    Alongside (World.upon · registries) p (finished c schema held told)
      (finished c schema held told) fun o w => o.cls = c ∧ p w := by
  refine .getBind fun w hw => ?_
  unfold checkFinished
  rw [upon_setPlain, upon_applyRule]
  refine .mono (p := p) ?_ (fun _ h => h.2) fun _ _ h => h
  refine .bind (alongside_changed (.forM (fun e => alongside_setPlain w _ _) _)) fun o =>
    .given fun ho => .bind (.lifted _) fun _ => .ite (fun _ => .done fun _ h => ⟨ho, h⟩) fun _ => ?_
  refine .bind (.bind (alongside_filled hp _ _) fun _ => .pure _) fun hidden => ?_
  exact (alongside_continued (alongside_setPlain w _ _)).mono (fun _ h => h)
    fun _ _ h => ⟨h.1.trans ho, h.2⟩

theorem alongside_revive (hp : Lasting p) (c : Nat) (schema : Schema)
    (given : List (String × Value)) :
    Alongside (World.upon · registries) p (revive c schema given) (revive c schema given)
      fun o w => o.cls = c ∧ p w :=
  .bind (alongside_filled hp _ _) fun _ => alongside_finished hp _ _ _ _

/-! ### Rows -/

theorem upon_checkReviving {w : World} (hw : w.Named) :
    (w.upon registries).checkReviving = w.checkReviving := by
  funext c given
  unfold checkReviving
  simp only [readClass_upon registries hw, upon_rules, upon_checkMaking hw]
  rfl

theorem alongside_asConstruction {α : Type} {x y : Action World α} {q : α → World → Prop}
    (hx : Alongside (World.upon · registries) p x y q) (c : Nat) (kinds : List FaultKind) :
    Alongside (World.upon · registries) p (asConstruction c kinds x) (asConstruction c kinds y) q :=
  .getBind fun _ _ => (hx.mapError _).mono (fun _ h => h.2) fun _ _ h => h

/-- An object that is made without arguments, and given its attributes one after the other. -/
def assemblePlain (cls : Nat) (values : List (String × Value)) : Action World Value := do
  let target ← added (← asConstruction cls [.type] (construct cls .none))
  values.forM fun e => asConstruction cls [.attr, .frozen] (setAttr target e.1 e.2)
  return target

theorem loose_or (w : World) (c : Nat) :
    w.Loose c ∨ ∃ schema, w.isValidated c = true ∧ (w.cls c).schema? = some schema := by
  cases hs : (w.cls c).schema? with
  | none => exact .inl (.inl hs)
  | some schema =>
    cases hv : w.isValidated c with
    | false => exact .inl (.inr hv)
    | true => exact .inr ⟨schema, rfl, rfl⟩

theorem assemble_loose {w : World} {c : Nat} (hc : w.Loose c) (values : List (String × Value)) :
    assemble c values w = assemblePlain c values w := by
  rw [assemble, Action.get_bind_run]
  cases hv : w.isValidated c with
  | false => rfl
  | true =>
    rw [hc.resolve_right (by simp [hv])]
    rfl

theorem assemble_validated {w : World} {c : Nat} {schema : Schema} (hv : w.isValidated c = true)
    (hs : (w.cls c).schema? = some schema) (values : List (String × Value)) :
    assemble c values w = (do
      w.checkReviving c values
      added (← revive c schema values) : Action World Value) w := by
  rw [assemble, Action.get_bind_run, hv, hs]

theorem alongside_assemblePlain (hp : Lasting p) {c : Nat} (hl : ∀ w, p w → w.Loose c)
    (values : List (String × Value)) :
    Alongside (World.upon · registries) p (assemblePlain c values) (assemblePlain c values)
      fun _ => p := by
  refine .bind (alongside_asConstruction (alongside_construct hp hl) _ _) fun o =>
    .given fun ho => .bind (alongside_added hp o) fun v => ?_
  rintro w ⟨i, t, o', rfl, ho', hc, hw⟩
  refine Alongside.bind (t := fun _ => p)
    (q := fun _ w => (∃ o, w.object? i = some o ∧ o.cls = c) ∧ p w)
    (.forM (fun e => alongside_asConstruction (alongside_setAttr hp hl _ _ _) _ _) _)
    (fun _ => .done fun _ h => h.2) w ⟨⟨o', ho', hc.trans ho⟩, hw⟩

/-- The object of some values. -/
theorem alongside_assemble (hp : Lasting p) {c : Nat}
    (hkind : ∀ w w', p w → p w' → w.Loose c → w'.Loose c) (values : List (String × Value)) :
    Alongside (World.upon · registries) p (assemble c values) (assemble c values) fun _ => p := by
  intro w hw
  rcases w.loose_or c with hl | ⟨schema, hv, hs⟩
  · rw [assemble_loose (w := w.upon registries) hl, assemble_loose hl]
    exact alongside_assemblePlain hp (fun w' hw' => hkind w w' hw hw' hl) values w hw
  · rw [assemble_validated (w := w.upon registries) hv hs, assemble_validated hv hs,
      upon_checkReviving (hp.named w hw)]
    have hadded (o : Instance) :
        Alongside (World.upon · registries) p (added o) (added o) fun _ => p :=
      (alongside_added hp o).mono (fun _ h => h) fun _ _ ⟨_, _, _, _, _, _, h⟩ => h
    exact Alongside.bind (.lifted _) (fun _ => .bind (alongside_revive hp _ _ _) fun o =>
      .given fun _ => hadded o) w hw

end Making

end World

end RecordSql
