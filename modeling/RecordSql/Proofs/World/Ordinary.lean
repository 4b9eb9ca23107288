import RecordSql.Proofs.World.Making

/-! Ordinary classes: their objects are made, set and read in the way of all objects, so that a new
object has just the attributes that it is given, and a marker of the class tells the variable of its
name. -/

namespace RecordSql

open RecordSql.Action

/-! ### Entries and kept values -/

namespace Value

theorem put_entries {l : List (String × Value)} {key : String} (h : key ∉ l.map (·.1)) (v : Value) :
    put (entries l) key v = entries (l ++ [(key, v)]) := by
  induction l with
  | nil => rfl
  | cons e l ih =>
    obtain ⟨hne, hl⟩ := not_or.mp (mt List.mem_cons.mpr h)
    have hkey : (text e.1).text? ≠ some key := fun heq => hne (Option.some.inj heq).symm
    have hput : put (entries (e :: l)) key v = (text e.1, e.2) :: put (entries l) key v :=
      if_neg hkey
    rw [hput, ih hl]
    rfl

/-- A value as it is held: every collection in it has a serial number. -/
def HeldAs (v held : Value) : Prop := ∃ n, held = (v.numbered n).1

end Value

/-- An entry whose value is held. -/
def HeldUnder (e held : String × Value) : Prop := held.1 = e.1 ∧ e.2.HeldAs held.2

theorem keys_of_held {values held : List (String × Value)}
    (h : List.Forall₂ HeldUnder values held) : held.map (·.1) = values.map (·.1) := by
  induction h with
  | nil => rfl
  | cons he _ ih => rw [List.map_cons, List.map_cons, ih, he.1]

namespace World

/-! ### Ordinary classes -/

/-- The rules by which objects are made, set and read. -/
def usualRules : List String := ["__new__", "__init__", "__setattr__", "__getattribute__"]

/-- A class whose objects have variables, and are made, set and read by no rules but those that all
objects have. -/
structure Ordinary (w : World) (c : Nat) : Prop where
  rooted : w.cls root = rootClass
  unvalidated : w.isValidated c = false
  unfielded : (w.cls c).fields? = none
  spacious : w.hasVariables c = true
  told : w.member? c "__dict__" = some .ownVariables
  inherits : ∀ rule ∈ usualRules, (w.owner? c rule).map (·.1) = some root

theorem member?_eq_owner? (w : World) (c : Nat) (attr : String) :
    w.member? c attr = (w.owner? c attr).map (·.2) := by
  rw [member?, owner?]
  induction w.ancestors c with
  | nil => rfl
  | cons a l ih =>
    rw [List.findSome?_cons, List.findSome?_cons]
    cases Assoc.get? (w.cls a).members attr with
    | none => exact ih
    | some m => rfl

/-- The nearest ancestor with a member under a name has the member that is found. -/
theorem owner?_eq_some {w : World} {c a : Nat} {attr : String} {m : Member}
    (ha : (w.owner? c attr).map (·.1) = some a)
    (hm : Assoc.get? (w.cls a).members attr = some m) : w.owner? c attr = some (a, m) := by
  obtain ⟨⟨a', m'⟩, howner, ha⟩ := Option.map_eq_some_iff.mp ha
  obtain rfl : a' = a := ha
  obtain ⟨b, -, hb⟩ := List.exists_of_findSome?_eq_some howner
  obtain ⟨_, hfound, heq⟩ := Option.map_eq_some_iff.mp hb
  cases heq
  rw [hm] at hfound
  cases hfound
  exact howner

/-- What the class of an object and its variables tell is what is read, if nothing else is asked. -/
theorem readInstance_of_readPlain {w : World} {o : Instance}
    (hrule : w.applyRule o "__getattribute__" = .ok ()) {attr : String} {v : Value}
    (h : w.readPlain o attr = .ok v) : w.readInstance o attr = .ok v := by
  rw [readInstance, readWithin]
  dsimp only
  rw [hrule, ok_bind, h]

theorem read_of_readPlain {w : World} {i : Nat} {o : Instance} (hi : w.object? i = some o)
    (hrule : w.applyRule o "__getattribute__" = .ok ()) {attr : String} {v : Value}
    (h : w.readPlain o attr = .ok v) : w.read i attr = .ok v := by
  rw [World.read, hi]
  exact readInstance_of_readPlain hrule h

/-- What they lack is not read, if the class has no rule for that. -/
theorem read_of_lacking {w : World} {i : Nat} {o : Instance} (hi : w.object? i = some o)
    (hrule : w.applyRule o "__getattribute__" = .ok ())
    (hstrict : w.member? o.cls "__getattr__" = none) {attr : String} {f : Fault}
    (h : w.readPlain o attr = .error f) : w.read i attr = .error f := by
  rw [World.read, hi]
  dsimp only
  rw [readInstance, readWithin]
  dsimp only
  rw [hrule, ok_bind, h]
  dsimp only
  rw [readMissing, hstrict]
  split <;> rfl

namespace Ordinary

variable {w : World} {c : Nat} (h : w.Ordinary c)

include h

theorem owner {rule : String} (hrule : rule ∈ usualRules) :
    ∃ r, w.owner? c rule = some (root, .routine r "object") := by
  have hroot : ∀ rule ∈ usualRules, ∃ r, Assoc.get? rootClass.members rule =
      some (.routine r "object") := by
    simp only [usualRules, List.forall_mem_cons]
    exact ⟨⟨_, rfl⟩, ⟨_, rfl⟩, ⟨_, rfl⟩, ⟨_, rfl⟩, fun _ h => absurd h List.not_mem_nil⟩
  obtain ⟨r, hr⟩ := hroot rule hrule
  exact ⟨r, owner?_eq_some (h.inherits rule hrule) (h.rooted ▸ hr)⟩

theorem routine {rule : String} (hrule : rule ∈ usualRules) :
    ∃ r, w.member? c rule = some (.routine r "object") := by
  obtain ⟨r, hr⟩ := h.owner hrule
  exact ⟨r, by rw [member?_eq_owner?, hr]; rfl⟩

theorem applyRule {rule : String} (hrule : rule ∈ usualRules) {o : Instance} (ho : o.cls = c) :
    w.applyRule o rule = .ok () := by
  obtain ⟨r, hr⟩ := h.routine hrule
  rw [World.applyRule, ruleOf, ho, hr]
  rfl

theorem loose : w.Loose c := .inr h.unvalidated

/-! ### Construction -/

theorem checkMaking : w.checkMaking c false = .ok () := by
  have hopen : w.leftOpen c = .ok [] := by
    rw [leftOpen, h.unvalidated, h.unfielded]
    dsimp only [Option.isSome_none, Bool.or_self]
    split <;> rfl
  obtain ⟨r, hr⟩ := h.routine (show "__new__" ∈ usualRules by decide)
  rw [World.checkMaking, hr, hopen]
  rfl

/-- A new object has no attributes. -/
theorem construct_run : construct c .none w = ⟨.ok { cls := c }, w, []⟩ := by
  have hinit : w.applyRule { cls := c } "__init__" = .ok () :=
    h.applyRule (by simp [usualRules]) rfl
  obtain ⟨r, hr⟩ := h.owner (show "__init__" ∈ usualRules by decide)
  have hmaking : w.checkMaking c (decide (0 < Arguments.none.length)) = .ok () := h.checkMaking
  rw [construct, get_bind_run, liftM_fault_bind_run, hmaking]
  dsimp only
  rw [liftM_fault_bind_run, hinit, hr]
  dsimp only [Option.map_some]
  rw [h.rooted]
  cases (w.cls c).schema? <;> rfl

/-! ### Attributes -/

/-- An attribute is set by the rule of all objects, whatever other rule its class has for validated
ones. -/
theorem setInstance_run {e : Edited} (he : e.object.cls = c) (attr : String) (v : Value) :
    w.setInstance attr v e = w.setPlain attr v e := by
  obtain ⟨r, hr⟩ := h.owner (show "__setattr__" ∈ usualRules by decide)
  have hby (l : List Nat) (hl : l.findSome? (fun a =>
      (Assoc.get? (w.cls a).members "__setattr__").map fun m => (a, m)) =
        some (root, .routine r "object")) :
      w.setBy (w.setValidated · attr v) attr v l e = w.setPlain attr v e := by
    induction l with
    | nil => cases hl
    | cons a l ih =>
      rw [setBy, current_bind_run]
      rw [List.findSome?_cons] at hl
      cases hm : Assoc.get? (w.cls a).members "__setattr__" with
      | none =>
        rw [hm] at hl
        exact ih hl
      | some m =>
        rw [hm] at hl
        cases hl
        rw [h.rooted]
        cases (w.cls e.object.cls).schema? with
        | none => rfl
        | some schema => exact congrFun (if_neg (by decide)) e
  subst he
  exact hby _ hr

/-- Under the name of a column marker an attribute becomes a variable. -/
theorem setInstance_marked {e : Edited} (he : e.object.cls = c) {attr : String} {m : ColumnMarker}
    (hm : w.member? c attr = some (.column m)) (v : Value) :
    w.setInstance attr v e = ⟨.ok (), { e with object := e.object.withVariable attr v }, []⟩ := by
  rw [h.setInstance_run he, setPlain, current_bind_run, he, hm]
  dsimp only [keeper?, Option.map_some, Member.isProperty, Option.getD_some]
  rw [h.spacious]
  rfl

/-- A marker tells the variable of its name, or null. -/
theorem read_marked {i : Nat} {o : Instance} (hi : w.object? i = some o) (ho : o.cls = c)
    {name : String} (hm : (∃ m, w.member? c name = some (.column m)) ∨
      ∃ m, w.member? c name = some (.relation m)) :
    w.read i name = .ok ((o.own? name).getD .null) := by
  subst ho
  obtain ⟨r, hr⟩ := h.routine (show "__getattribute__" ∈ usualRules by decide)
  have htold (fault : Value → Fault) : w.toldVariables fault o = .ok (.dict o.vars) := by
    rw [toldVariables, isMarked, isMarked, h.told, hr, h.spacious]
    rfl
  have hplain : w.readPlain o name = .ok ((o.own? name).getD .null) := by
    have hmarked : w.markedVariable w.uncallable o name = .ok ((o.own? name).getD .null) := by
      rw [markedVariable, htold]
      rfl
    rcases hm with ⟨m, hm⟩ | ⟨m, hm⟩
    all_goals
      rw [readPlain, hm]
      dsimp only [Member.isData, ofMember, ofMemberBy]
      rw [hmarked]
      cases o.own? name <;> rfl
  exact read_of_readPlain hi (h.applyRule (by simp [usualRules]) rfl) hplain

end Ordinary

/-! ### New objects -/

/-- The world with one more object of a class that has some variables. -/
def having (w : World) (c : Nat) (values : List (String × Value)) (nextSerial : Nat) : World :=
  { w with objects := w.objects ++ [⟨c, Value.entries values, []⟩], nextSerial }

theorem object?_having (w : World) (c : Nat) (values : List (String × Value)) (nextSerial : Nat) :
    (w.having c values nextSerial).object? w.objects.length =
      some ⟨c, Value.entries values, []⟩ :=
  List.getElem?_concat_length

theorem asConstruction_run {α : Type} {x : Action World α} {w w' : World} {a : α}
    {log : List Notice} (h : x w = ⟨.ok a, w', log⟩) (c : Nat) (kinds : List FaultKind) :
    asConstruction c kinds x w = ⟨.ok a, w', log⟩ := by
  rw [asConstruction, get_bind_run, Action.mapError, h]
  rfl

/-- An attribute of an object is set as a kept value. -/
theorem setAttr_run {w w' : World} {i : Nat} {o o' : Instance} {attr : String} {v : Value}
    {r : Except Error Unit} {log : List Notice} (hi : w.object? i = some o)
    (hset : let s := { w with nextSerial := (v.numbered w.nextSerial).2 }
      s.setInstance attr (v.numbered w.nextSerial).1 ⟨o, s, some i⟩ = ⟨r, ⟨o', w', some i⟩, log⟩)
    (k : ClassRef) :
    setAttr (.object i k) attr v w = ⟨r, { w' with objects := w'.objects.set i o' }, log⟩ := by
  let s := { w with nextSerial := (v.numbered w.nextSerial).2 }
  have hat : s.object? i = some o := hi
  show changing i (s.setInstance attr (v.numbered w.nextSerial).1) s = _
  rw [changing, Action.within, hat]
  dsimp only [Option.getD_some]
  rw [hset]

section

variable {w : World} {c : Nat} (h : w.Ordinary c)

include h

theorem Ordinary.withObjects (objects : List Instance) (nextSerial : Nat) :
    World.Ordinary { w with objects, nextSerial } c :=
  ⟨h.rooted, h.unvalidated, h.unfielded, h.spacious, h.told, h.inherits⟩

theorem Ordinary.having (values : List (String × Value)) (nextSerial : Nat) :
    (w.having c values nextSerial).Ordinary c :=
  h.withObjects _ nextSerial

/-- A new object gets one more variable. -/
theorem setAttr_having {values : List (String × Value)} {attr : String}
    (hattr : attr ∉ values.map (·.1)) {m : ColumnMarker}
    (hm : w.member? c attr = some (.column m)) (k : ClassRef) (v : Value) (nextSerial : Nat) :
    setAttr (.object w.objects.length k) attr v (w.having c values nextSerial) =
      ⟨.ok (), w.having c (values ++ [(attr, (v.numbered nextSerial).1)])
        (v.numbered nextSerial).2, []⟩ := by
  have hordinary := h.having values (v.numbered nextSerial).2
  have hset := hordinary.setInstance_marked
    (e := ⟨⟨c, Value.entries values, []⟩, w.having c values (v.numbered nextSerial).2,
      some w.objects.length⟩) rfl hm (v.numbered nextSerial).1
  have hvars : (Instance.mk c (Value.entries values) []).withVariable attr
      (v.numbered nextSerial).1 =
        ⟨c, Value.entries (values ++ [(attr, (v.numbered nextSerial).1)]), []⟩ := by
    rw [Instance.withVariable, Value.put_entries hattr]
  rw [setAttr_run (w.object?_having c values nextSerial) hset k, hvars]
  simp [World.having]

/-- A new object gets one variable after the other, in the order of the attributes, by settings
that do what they do by themselves where they succeed. -/
theorem setAttrs_having {values : List (String × Value)}
    (hmarked : ∀ e ∈ values, ∃ m, w.member? c e.1 = some (.column m)) (k : ClassRef)
    {set : String × Value → Action World Unit}
    (hset : ∀ e s s' log, setAttr (.object w.objects.length k) e.1 e.2 s = ⟨.ok (), s', log⟩ →
      set e s = ⟨.ok (), s', log⟩)
    (before : List (String × Value)) (hnodup : ((before ++ values).map (·.1)).Nodup)
    (nextSerial : Nat) :
    ∃ held nextSerial', List.Forall₂ HeldUnder values held ∧
      values.forM set (w.having c before nextSerial) =
        ⟨.ok (), w.having c (before ++ held) nextSerial', []⟩ := by
  induction values generalizing before nextSerial with
  | nil => exact ⟨[], nextSerial, .nil, by rw [List.append_nil]; rfl⟩
  | cons e values ih =>
    obtain ⟨⟨m, hm⟩, hmarked⟩ := List.forall_mem_cons.mp hmarked
    have hnew : e.1 ∉ before.map (·.1) := by
      rw [List.map_append, List.map_cons] at hnodup
      exact fun hmem => (List.nodup_append.mp hnodup).2.2 e.1 hmem e.1 List.mem_cons_self rfl
    have hfirst := hset e _ _ _ (setAttr_having h hnew hm k e.2 nextSerial)
    have hnext :
        (((before ++ [(e.1, (e.2.numbered nextSerial).1)]) ++ values).map (·.1)).Nodup := by
      simpa using hnodup
    obtain ⟨held, nextSerial', hheld, hrun⟩ := ih hmarked _ hnext (e.2.numbered nextSerial).2
    refine ⟨(e.1, (e.2.numbered nextSerial).1) :: held, nextSerial', .cons ⟨rfl, _, rfl⟩ hheld, ?_⟩
    have hrest := bind_run_ok hfirst fun _ => values.forM set
    rw [hrun, List.append_assoc] at hrest
    exact hrest

/-- An ordinary object that is made of some values has just these as its variables. -/
theorem assemble_ordinary {values : List (String × Value)}
    (hmarked : ∀ e ∈ values, ∃ m, w.member? c e.1 = some (.column m))
    (hnodup : (values.map (·.1)).Nodup) :
    ∃ held nextSerial, List.Forall₂ HeldUnder values held ∧
      assemble c values w =
        ⟨.ok (.object w.objects.length (w.ref c)), w.having c held nextSerial, []⟩ := by
  have hadded : added { cls := c } w =
      ⟨.ok (.object w.objects.length (w.ref c)), w.having c [] w.nextSerial, []⟩ := rfl
  obtain ⟨held, nextSerial, hheld, hrun⟩ :=
    setAttrs_having h hmarked (w.ref c) (fun e _ _ _ hset => asConstruction_run hset c _) []
      hnodup w.nextSerial
  refine ⟨held, nextSerial, hheld, ?_⟩
  rw [assemble_loose h.loose, assemblePlain, bind_run_ok (asConstruction_run h.construct_run c _),
    bind_run_ok hadded, bind_run_ok hrun]
  rfl

end

end World

end RecordSql
