import RecordSql.Proofs.Statement.Failures
import RecordSql.World.Display

/-! Worlds in which all objects answer: no class has rules of its own, and validated objects hold
what they are validated for. -/

namespace RecordSql

/-! ### Classes without rules of their own -/

namespace Member

def isRoutine : Member → Bool
  | routine .. => true
  | _ => false

def isSlot : Member → Bool
  | slot => true
  | _ => false

/-- What the classes of usual objects have under the names that objects are asked by. Under some of
them there is nothing. -/
def usual : Assoc String (Member → Bool) :=
  [("__class__", fun m => m matches .classLink), ("__dict__", fun m => m matches .ownVariables),
    ("model_fields_set", fun m => m matches .fieldsGiven),
    (toldHidden, fun m => m matches .constant (.dict [] _)),
    (givenSlot, isSlot), (extraSlot, isSlot), (hiddenSlot, isSlot),
    ("__abstractmethods__", fun m => m matches .constant (.fixedSet [] _)),
    (World.registryAttribute, fun m => m matches .registry _)] ++
  ["__getattribute__", "__getattr__", "__setattr__", "__init__", "__new__", "__bool__", "__len__",
    "__iter__", "model_construct", "model_post_init"].map (·, isRoutine) ++
  ["__get__", "__set__", "__delete__", "__call__", "__post_init__"].map (·, fun _ => false)

/-- Whether a member is what usual objects have under its name. -/
def isUsual (name : String) (m : Member) : Bool := (Assoc.get? usual name).all (· m)

theorem routine_of_isUsual {name : String} (hn : Assoc.get? usual name = some isRoutine)
    {m : Member} (hm : m.isUsual name = true) : ∃ r owner, m = routine r owner := by
  rw [isUsual, hn] at hm
  cases m with
  | routine r owner => exact ⟨r, owner, rfl⟩
  | _ => cases hm

theorem not_isUsual {name : String} (hn : Assoc.get? usual name = some fun _ => false)
    (m : Member) : ¬m.isUsual name = true := by
  rw [isUsual, hn]
  exact Bool.false_ne_true

end Member

namespace World

/-- A world whose classes have no rules of their own. -/
structure Regular (w : World) : Prop where
  members : ∀ c name m, Assoc.get? (w.cls c).members name = some m → m.isUsual name = true
  linked : ∀ c, ∀ name ∈ ["__class__", "__dict__"], (w.member? c name).isSome = true
  unvalidated : ∀ c, w.isValidated c = false →
    w.member? c "__getattr__" = none ∧ w.member? c "model_fields_set" = none
  validated : ∀ c, w.isValidated c = true → w.hasVariables c = true ∧
    ∀ name ∈ ["model_fields_set", givenSlot, extraSlot, hiddenSlot, "model_construct"],
      (w.member? c name).isSome = true

/-- An object as usual ones are: it tells no hidden fields, and its variables stand under texts.
What it holds beyond its fields is a dictionary, if there is anything, and a validated object tells
the fields that it was given. -/
structure Proper (w : World) (o : Instance) : Prop where
  hidden : o.own? toldHidden = none
  named : ∀ e ∈ o.vars, ∃ s, e.1 = .text s
  extra : ∀ v, w.readPlain o extraSlot = .ok v → v = .null ∨ ∃ es n, v = .dict es n
  unvalidated : w.isValidated o.cls = false → o.own? "model_fields_set" = none
  validated : w.isValidated o.cls = true → (Assoc.get? o.slots extraSlot).isSome = true ∧
    ∃ (l : List String) (n : Nat), Assoc.get? o.slots givenSlot = some (.set (l.map .text) n)

namespace Regular

variable {w : World} (hw : w.Regular)

include hw

theorem member {c : Nat} {name : String} {m : Member} (hm : w.member? c name = some m) :
    m.isUsual name = true := by
  obtain ⟨a, -, ha⟩ := List.exists_of_findSome?_eq_some hm
  exact hw.members a name m ha

theorem routine {c : Nat} {name : String}
    (hn : Assoc.get? Member.usual name = some Member.isRoutine) {m : Member}
    (hm : w.member? c name = some m) : ∃ r owner, m = .routine r owner :=
  Member.routine_of_isUsual hn (hw.member hm)

theorem slot {c : Nat} {name : String} (hn : Assoc.get? Member.usual name = some Member.isSlot)
    {m : Member} (hm : w.member? c name = some m) : m = .slot := by
  have h := hw.member hm
  rw [Member.isUsual, hn] at h
  cases m with
  | slot => rfl
  | _ => cases h

theorem absent {c : Nat} {name : String} (hn : Assoc.get? Member.usual name = some fun _ => false) :
    w.member? c name = none := by
  cases hm : w.member? c name with
  | none => rfl
  | some m => exact absurd (hw.member hm) (Member.not_isUsual hn m)

theorem classLink (c : Nat) : w.member? c "__class__" = some .classLink := by
  obtain ⟨m, hm⟩ := Option.isSome_iff_exists.mp (hw.linked c _ (List.mem_cons_self))
  rw [hm]
  have h := hw.member hm
  cases m with
  | classLink => rfl
  | _ => cases h

theorem ownVariables (c : Nat) : w.member? c "__dict__" = some .ownVariables := by
  obtain ⟨m, hm⟩ := Option.isSome_iff_exists.mp
    (hw.linked c _ (List.mem_cons_of_mem _ List.mem_cons_self))
  rw [hm]
  have h := hw.member hm
  cases m with
  | ownVariables => rfl
  | _ => cases h

/-! ### Rules -/

theorem ruleOf {name : String} (hn : Assoc.get? Member.usual name = some Member.isRoutine)
    (o : Instance) : w.ruleOf o name = .usual := by
  rw [World.ruleOf]
  cases hm : w.member? o.cls name with
  | none => rfl
  | some m =>
    obtain ⟨r, owner, rfl⟩ := hw.routine hn hm
    rfl

theorem applyRule {name : String} (hn : Assoc.get? Member.usual name = some Member.isRoutine)
    (o : Instance) : w.applyRule o name = .ok () := by
  rw [World.applyRule, hw.ruleOf hn]
  rfl

theorem hook {rule : String} (hn : Assoc.get? Member.usual rule = some fun _ => false)
    (v : Value) : w.hook? v rule = none := by
  cases v with
  | object i _ =>
    rw [hook?]
    cases w.object? i with
    | none => rfl
    | some o => exact hw.absent hn
  | _ => rfl

theorem heldValue (fault : Value → Fault) (v : Value) : w.heldValue fault v = .ok v := by
  rw [World.heldValue, hw.hook rfl]

theorem ownOrHeld (fault : Value → Fault) (o : Instance) (name : String) (v : Value) :
    w.ownOrHeld fault o name v = .ok ((o.own? name).getD v) := by
  rw [World.ownOrHeld, hw.hook rfl, hw.heldValue]
  cases o.own? name <;> rfl

/-! ### Reading -/

theorem toldVariables (fault : Value → Fault) (o : Instance) :
    w.toldVariables fault o = if w.hasVariables o.cls then .ok (.dict o.vars)
      else .error (.noAttribute (w.cls o.cls).name "__dict__") := by
  have hread : w.isMarked o.cls "__getattribute__" = false := by
    rw [isMarked]
    cases hm : w.member? o.cls "__getattribute__" with
    | none => rfl
    | some m =>
      obtain ⟨r, owner, rfl⟩ := hw.routine rfl hm
      rfl
  have hvars : w.isMarked o.cls "__dict__" = false := by
    rw [isMarked, hw.ownVariables]
    rfl
  rw [World.toldVariables, hread, hvars, hw.ownVariables]
  rfl

theorem markedVariable_error {fault : Value → Fault} {o : Instance} {name : String} {f : Fault}
    (hf : w.markedVariable fault o name = .error f) : f.kind = .attr := by
  rw [markedVariable, hw.toldVariables] at hf
  split at hf
  · cases hf
  · cases hf
    rfl

/-- What an object tells under the name of one of the slots of validated objects. -/
theorem slotValue {name : String} (hn : Assoc.get? Member.usual name = some Member.isSlot)
    (fault : Value → Fault) (o : Instance) : w.slotValue fault o name =
      (Assoc.get? o.slots name).elim (.error (.emptySlot (w.cls o.cls).name name)) .ok := by
  rw [World.slotValue]
  cases hm : w.member? o.cls name with
  | none => rfl
  | some m =>
    obtain rfl := hw.slot hn hm
    rfl

theorem ofMember_error {o : Instance} {name : String} {m : Member} {f : Fault}
    (hf : w.ofMember o name m = .error f) : f.kind = .attr := by
  rw [ofMember] at hf
  cases m with
  | constant v =>
    rw [ofMemberBy, hw.heldValue] at hf
    cases hf
  | slot => exact congrArg Fault.kind (elim_eq_error hf)
  | column _ | relation _ => exact hw.markedVariable_error hf
  | ownVariables =>
    rw [ofMemberBy] at hf
    split at hf
    · cases hf
    · cases hf
      rfl
  | fieldsGiven | extraGiven =>
    rw [ofMemberBy, hw.slotValue rfl] at hf
    exact congrArg Fault.kind (elim_eq_error hf)
  | signature =>
    cases hf
    rfl
  | _ => cases hf

theorem readPlain_constant {o : Instance} {attr : String} {v : Value}
    (hm : w.member? o.cls attr = some (.constant v)) :
    w.readPlain o attr = .ok ((o.own? attr).getD v) := by
  rw [readPlain, hm]
  exact hw.ownOrHeld w.uncallable o attr v

theorem readPlain_error {o : Instance} {attr : String} {f : Fault}
    (hf : w.readPlain o attr = .error f) : f.kind = .attr := by
  cases hm : w.member? o.cls attr with
  | none =>
    rw [readPlain, hm] at hf
    exact congrArg Fault.kind (elim_eq_error hf)
  | some m =>
    have hmember (h : (if m.isData then w.ofMember o attr m
        else (o.own? attr).elim (w.ofMember o attr m) .ok) = .error f) : f.kind = .attr := by
      split at h
      · exact hw.ofMember_error h
      · cases ho : o.own? attr with
        | none =>
          rw [ho] at h
          exact hw.ofMember_error h
        | some _ =>
          rw [ho] at h
          cases h
    cases m with
    | constant v =>
      rw [hw.readPlain_constant hm] at hf
      cases hf
    | _ =>
      rw [readPlain, hm] at hf
      exact hmember hf

omit hw in
theorem heldItem_error {o : Instance} {attr : String} {es : List (Value × Value)} {n : Nat}
    {f : Fault} (hf : w.heldItem o attr (.dict es n) = .error f) : f.kind = .attr :=
  congrArg Fault.kind (elim_eq_error hf)

/-- What an object tells as its hidden fields are none. -/
theorem readPlain_hidden {o : Instance} (ho : w.Proper o) {v : Value}
    (hv : w.readPlain o toldHidden = .ok v) : ∃ n, v = .dict [] n := by
  cases hm : w.member? o.cls toldHidden with
  | none =>
    rw [readPlain, hm, ho.hidden] at hv
    cases hv
  | some m =>
    have h := hw.member hm
    cases m with
    | constant v' =>
      rw [hw.readPlain_constant hm, ho.hidden] at hv
      obtain rfl := Except.ok.inj hv
      cases v' with
      | dict es n =>
        cases es with
        | nil => exact ⟨n, rfl⟩
        | cons _ _ => cases h
      | _ => cases h
    | _ => cases h

/-- What an object holds beyond its fields, where it may hold nothing. -/
theorem extra_ok {o : Instance} (ho : w.Proper o) : ∃ v, Fault.ifPresent (w.readPlain o extraSlot) =
    .ok v ∧ (v.getD .null = .null ∨ ∃ es n, v.getD .null = .dict es n) := by
  cases hr : w.readPlain o extraSlot with
  | ok v => exact ⟨some v, rfl, ho.extra v hr⟩
  | error f =>
    refine ⟨none, ?_, .inl rfl⟩
    rw [Fault.ifPresent, if_pos (hw.readPlain_error hr)]

theorem readFurther_error {reader : Reader} {o : Instance} (ho : w.Proper o) {attr : String}
    {f : Fault} (hf : w.readFurther reader o attr = .error f) : f.kind = .attr := by
  rcases bind_eq_error.mp hf with hf | ⟨told, htold, hf⟩
  · exact hw.readPlain_error hf
  -- no field is hidden, so the attribute can only be one beyond the fields
  obtain ⟨n, rfl⟩ := hw.readPlain_hidden ho htold
  have hcontains : (Value.dict [] n).contains (w.readView reader) attr = .ok false := rfl
  rw [hcontains, ok_bind, if_neg Bool.false_ne_true] at hf
  obtain ⟨extra, hextra, hdict⟩ := hw.extra_ok ho
  rw [hextra, ok_bind] at hf
  dsimp only at hf
  split at hf
  · rename_i htrue
    rcases hdict with hnull | ⟨es, n, hes⟩
    · rw [hnull] at htrue
      cases htrue
    · rw [hes] at hf
      exact heldItem_error hf
  · split at hf
    · exact hw.readPlain_error hf
    · cases hf
      rfl

theorem readMissing_error {reader : Reader} {o : Instance} (ho : w.Proper o) {attr : String}
    {f f' : Fault} (hf : f.kind = .attr) (hf' : w.readMissing reader o attr f = .error f') :
    f'.kind = .attr := by
  rw [readMissing] at hf'
  cases hm : w.member? o.cls "__getattr__" with
  | none =>
    rw [hm] at hf'
    cases hf'
    exact hf
  | some m =>
    obtain ⟨r, owner, rfl⟩ := hw.routine rfl hm
    rw [hm] at hf'
    exact hw.readFurther_error ho hf'

/-- What reading an object comes to. -/
theorem readInstance_eq (o : Instance) (attr : String) :
    (∃ v, w.readPlain o attr = .ok v ∧ w.readInstance o attr = .ok v) ∨
      ∃ f, w.readPlain o attr = .error f ∧ w.readInstance o attr =
        w.readMissing (w.readWithin (2 * w.classes.length + 1)) o attr f := by
  rw [readInstance, readWithin]
  dsimp only
  rw [hw.applyRule rfl, ok_bind]
  cases hr : w.readPlain o attr with
  | ok v => exact .inl ⟨v, rfl, rfl⟩
  | error f =>
    refine .inr ⟨f, rfl, ?_⟩
    dsimp only
    rw [if_pos (hw.readPlain_error hr)]

/-- Reading an object fails only for want of the attribute. -/
theorem readInstance_error {o : Instance} (ho : w.Proper o) {attr : String} {f : Fault}
    (hf : w.readInstance o attr = .error f) : f.kind = .attr := by
  rcases hw.readInstance_eq o attr with ⟨v, -, hv⟩ | ⟨f', hf', hmissing⟩
  · rw [hv] at hf
    cases hf
  · rw [hmissing] at hf
    exact hw.readMissing_error ho (hw.readPlain_error hf') hf

/-! ### Answers -/

theorem readInstance_class (o : Instance) :
    w.readInstance o "__class__" = .ok (.cls (w.ref o.cls)) := by
  have hplain : w.readPlain o "__class__" = .ok (.cls (w.ref o.cls)) := by
    rw [readPlain, hw.classLink]
    rfl
  rcases hw.readInstance_eq o "__class__" with ⟨v, hv, hread⟩ | ⟨f, hf, -⟩
  · rw [hread, ← hv, hplain]
  · rw [hplain] at hf
    cases hf

/-- An object tells its variables, if it has any. -/
theorem readInstance_dict (o : Instance) : w.readInstance o "__dict__" =
    if w.hasVariables o.cls then .ok (.dict o.vars)
    else .error (.noAttribute (w.cls o.cls).name "__dict__") := by
  have hplain : w.readPlain o "__dict__" = if w.hasVariables o.cls then .ok (.dict o.vars)
      else .error (.noAttribute (w.cls o.cls).name "__dict__") := by
    rw [readPlain, hw.ownVariables]
    rfl
  rcases hw.readInstance_eq o "__dict__" with ⟨v, hv, hread⟩ | ⟨f, hf, hread⟩
  · rw [hread, ← hv, hplain]
  · rw [hread, ← hplain, hf, readMissing]
    rw [hplain] at hf
    split at hf
    · cases hf
    · rename_i hnone
      have hvalidated : w.isValidated o.cls = false :=
        Bool.eq_false_iff.mpr fun h => hnone (hw.validated o.cls h).1
      rw [(hw.unvalidated o.cls hvalidated).1]

/-- What a validated object holds in one of its slots. -/
theorem readInstance_slot {o : Instance} {name : String} {v : Value}
    (hm : w.member? o.cls name = some .slot) (hv : Assoc.get? o.slots name = some v) :
    w.readInstance o name = .ok v ∧ w.readPlain o name = .ok v := by
  have hplain : w.readPlain o name = .ok v := by
    rw [readPlain, hm]
    show (Assoc.get? o.slots name).elim _ Except.ok = _
    rw [hv]
    rfl
  rcases hw.readInstance_eq o name with ⟨v', hv', hread⟩ | ⟨f, hf, -⟩
  · rw [hplain] at hv'
    cases hv'
    exact ⟨hread, hplain⟩
  · rw [hplain] at hf
    cases hf

theorem validatedItems_ok {o : Instance} (ho : w.Proper o) (hvalid : w.isValidated o.cls = true) :
    ∃ l, w.validatedItems o = .ok l := by
  obtain ⟨hvars, hmembers⟩ := hw.validated o.cls hvalid
  have hnames : o.vars.find? (fun e => e.1.text?.isNone) = none :=
    List.find?_eq_none.mpr fun e he => by
      obtain ⟨s, hs⟩ := ho.named e he
      rw [hs]
      exact Bool.false_ne_true
  have hopen : ∃ l, w.openItems o = .ok l := by
    rw [openItems, hw.readInstance_dict, if_pos hvars]
    dsimp only [entriesOf, ok_bind]
    rw [hnames]
    exact ⟨_, rfl⟩
  obtain ⟨m, hm⟩ := Option.isSome_iff_exists.mp (hmembers extraSlot (by simp))
  obtain rfl := hw.slot rfl hm
  obtain ⟨v, hv⟩ := Option.isSome_iff_exists.mp (ho.validated hvalid).1
  obtain ⟨hread, hplain⟩ := hw.readInstance_slot hm hv
  obtain ⟨l, hl⟩ := hopen
  rw [validatedItems, hl, hread]
  rcases ho.extra v hplain with rfl | ⟨es, n, rfl⟩
  · exact ⟨_, rfl⟩
  · dsimp only [entriesOf, ok_bind]
    split <;> exact ⟨_, rfl⟩

omit hw in
theorem view_read {i : Nat} {o : Instance} (hi : w.object? i = some o) (attr : String) :
    w.view.read i attr = w.readInstance o attr := by
  show w.read i attr = _
  rw [World.read, hi]

omit hw in
theorem view_rule {i : Nat} {o : Instance} (hi : w.object? i = some o) (name : String) :
    w.view.rule i name = w.ruleOf o name := by
  show w.rules i name = _
  rw [rules, hi]

/-- What a validated object tells as the fields it was given; no other object tells any. -/
theorem readInstance_given {o : Instance} (ho : w.Proper o) {v : Value}
    (hv : w.readInstance o "model_fields_set" = .ok v) :
    ∃ (l : List String) (n : Nat), v = .set (l.map .text) n := by
  cases hvalid : w.isValidated o.cls with
  | true =>
    obtain ⟨m, hm⟩ := Option.isSome_iff_exists.mp
      ((hw.validated o.cls hvalid).2 "model_fields_set" (by simp))
    obtain ⟨-, l, n, hgiven⟩ := ho.validated hvalid
    have hplain : w.readPlain o "model_fields_set" = .ok (.set (l.map .text) n) := by
      have hmember : m = .fieldsGiven := by
        have h := hw.member hm
        cases m with
        | fieldsGiven => rfl
        | _ => cases h
      rw [readPlain, hm, hmember]
      show w.slotValue w.uncallable o givenSlot = _
      rw [hw.slotValue rfl, hgiven]
      rfl
    rcases hw.readInstance_eq o "model_fields_set" with ⟨v', hv', hread⟩ | ⟨f, hf, -⟩
    · rw [hread, ← hv', hplain] at hv
      exact ⟨l, n, (Except.ok.inj hv).symm⟩
    · rw [hplain] at hf
      cases hf
  | false =>
    obtain ⟨hgetattr, hgiven⟩ := hw.unvalidated o.cls hvalid
    have hplain : w.readPlain o "model_fields_set" =
        .error (.noAttribute (w.cls o.cls).name "model_fields_set") := by
      rw [readPlain, hgiven, ho.unvalidated hvalid]
      rfl
    rcases hw.readInstance_eq o "model_fields_set" with ⟨v', hv', -⟩ | ⟨f, -, hread⟩
    · rw [hplain] at hv'
      cases hv'
    · rw [hread, readMissing, hgetattr] at hv
      cases hv

/-- The objects of a regular world answer. -/
theorem answers {i : Nat} {o : Instance} (hi : w.object? i = some o) (ho : w.Proper o) :
    w.view.Answers i where
  reads attr f hf := hw.readInstance_error ho (view_read hi attr ▸ hf)
  tells := ⟨w.ref o.cls, (view_read hi _).trans (hw.readInstance_class o)⟩
  isTrue := ⟨(view_rule hi _).trans (hw.ruleOf rfl o), (view_rule hi _).trans (hw.ruleOf rfl o)⟩
  passes := (view_rule hi _).trans (hw.ruleOf rfl o)
  items r hr := by
    have hitems : w.view.items? i = w.items? i := rfl
    rw [hitems, World.items?, hi] at hr
    change (if w.isValidated o.cls then some (w.validatedItems o) else none) = some r at hr
    split at hr
    · cases hr
      exact hw.validatedItems_ok ho ‹_›
    · cases hr
  given v hv := .inr (hw.readInstance_given ho (view_read hi _ ▸ hv))
  vars v hv := by
    rw [view_read hi, hw.readInstance_dict] at hv
    split at hv
    · exact ⟨_, _, (Except.ok.inj hv).symm⟩
    · cases hv

end Regular

end World

end RecordSql
