import RecordSql.Proofs.Agreement

/-! Other registries in a world. No object and no class looks at a registry, unless for the text of
an entity: in the world with other registries the same is read, and the view differs in the texts of
objects alone. -/

namespace RecordSql

/-! ### Views with other texts -/

/-- The same objects with other texts. -/
def Objects.worded (objects : Objects) (shown : ObjectText)
    (told : Nat → Except Fault String) : Objects := { objects with shown, told }

namespace Objects

variable (objects : Objects) (shown : ObjectText) (told : Nat → Except Fault String)

theorem agree_worded : Agree objects (objects.worded shown told) :=
  { rule := fun _ _ _ => rfl, read := fun _ _ _ => rfl, items? := fun _ => rfl, key := rfl }

/-! The recursions of the order of values pass the objects on as they are: what they do with them in
one step is all that can differ. -/

theorem same_worded : Value.same (objects.worded shown told) = Value.same objects := by
  delta Value.same
  rfl

theorem less_worded : Value.less (objects.worded shown told) = Value.less objects := by
  delta Value.less Value.less._f Value.lessItems._f
  rw [same_worded]
  rfl

theorem run_worded : Value.run (objects.worded shown told) = Value.run objects := by
  delta Value.run Value.run._f
  rw [less_worded]

theorem place_worded : Value.place (objects.worded shown told) = Value.place objects := by
  funext v l
  fun_induction Value.place objects v l with
  | case1 l h =>
    rw [Value.place]
    split
    · rfl
    · simp_all
  | case2 l w h hlt ih ih' =>
    rw [Value.place, less_worded]
    split
    · simp_all
    · rename_i u hu
      obtain rfl : u = w := Option.some.inj (hu.symm.trans h)
      rw [ih, ih']

theorem sorted_worded : Value.sorted (objects.worded shown told) = Value.sorted objects := by
  funext l
  unfold Value.sorted Value.inserted
  rw [less_worded, run_worded, place_worded]

end Objects

/-- A member that no object's text is part of. -/
def Member.Objectless : Member → Prop
  | column m => m.name.Objectless
  | relation m => m.targetTable.Objectless
  | _ => True

theorem Member.Objectless.ofClass {m : Member} (h : m.Objectless) (objects : Objects)
    (shown : ObjectText) (told : Nat → Except Fault String) (c : ClassRef) (fields : List String)
    (name : String) : m.ofClass (objects.worded shown told) c fields name =
      m.ofClass objects c fields name := by
  have htext : m.markerText? (objects.worded shown told) = m.markerText? objects := by
    cases m with
    | column m =>
      have hname : m.name.shown (objects.worded shown told) = m.name.shown objects :=
        Value.shownWith_congr _ _ _ _ h
      rw [markerText?, markerText?, hname]
    | relation m =>
      have hname : m.targetTable.shown (objects.worded shown told) = m.targetTable.shown objects :=
        Value.shownWith_congr _ _ _ _ h
      rw [markerText?, markerText?, hname]
    | _ => rfl
  have hbody : m.ofBody (objects.worded shown told) c fields name =
      m.ofBody objects c fields name := by
    cases m with
    | column _ | relation _ => simp only [ofBody, ofBody.marked, htext]
    | _ => rfl
  rw [Member.ofClass, hbody]
  rfl

namespace World

/-- The world with other registries. -/
def upon (w : World) (registries : List Registry) : World := { w with registries }

/-- A world in which markers are named by values without objects. -/
def Named (w : World) : Prop :=
  ∀ c name m, Assoc.get? (w.cls c).members name = some m → m.Objectless

variable (w : World) (registries : List Registry)

/-! ### Reading -/

theorem upon_callFault : (w.upon registries).callFault = w.callFault := by
  funext depth v
  induction depth generalizing v with
  | zero => rfl
  | succ depth ih =>
    have hf : (w.upon registries).callFault depth = w.callFault depth := funext ih
    cases v with
    | object i c =>
      simp only [callFault, hf]
      rfl
    | _ => rfl

theorem upon_uncallable : (w.upon registries).uncallable = w.uncallable := by
  funext v
  exact congrFun (congrFun (upon_callFault w registries) _) v

theorem upon_ofMember : (w.upon registries).ofMember = w.ofMember := by
  funext o name m
  unfold ofMember
  rw [upon_uncallable]
  rfl

theorem upon_ruleOf : (w.upon registries).ruleOf = w.ruleOf := by
  funext o name
  unfold ruleOf
  rw [upon_uncallable, upon_ofMember]
  rfl

theorem upon_rules : (w.upon registries).rules = w.rules := by
  funext i name
  unfold rules
  rw [upon_ruleOf]
  rfl

theorem upon_applyRule : (w.upon registries).applyRule = w.applyRule := by
  funext o name
  unfold applyRule
  rw [upon_ruleOf, upon_rules]

theorem upon_readPlain : (w.upon registries).readPlain = w.readPlain := by
  funext o attr
  unfold readPlain
  rw [upon_uncallable, upon_ofMember]
  rfl

theorem upon_readFurther : (w.upon registries).readFurther = w.readFurther := by
  funext r o attr
  unfold readFurther readView readHidden
  rw [upon_readPlain, upon_rules, upon_uncallable]
  rfl

theorem upon_readWithin (depth : Nat) :
    (w.upon registries).readWithin depth = w.readWithin depth := by
  induction depth with
  | zero => rfl
  | succ depth ih =>
    funext o attr
    simp only [readWithin, readMissing, ih, upon_applyRule, upon_readPlain, upon_readFurther]
    rfl

theorem upon_readInstance : (w.upon registries).readInstance = w.readInstance := by
  funext o attr
  exact congrFun (congrFun (upon_readWithin w registries _) o) attr

theorem upon_read : (w.upon registries).read = w.read := by
  funext i attr
  unfold read
  rw [upon_readInstance]
  rfl

theorem upon_attributeOf : (w.upon registries).attributeOf = w.attributeOf := by
  funext v name
  unfold attributeOf
  rw [upon_read]

theorem upon_calling {α : Type} : (w.upon registries).calling (α := α) = w.calling := by
  funext v name
  unfold calling
  rw [upon_uncallable, upon_attributeOf]

theorem upon_entriesOf : (w.upon registries).entriesOf = w.entriesOf := by
  funext v
  unfold entriesOf
  rw [upon_calling]

theorem upon_items? : (w.upon registries).items? = w.items? := by
  funext i
  unfold items? validatedItems openItems
  rw [upon_readInstance, upon_calling, upon_entriesOf]
  rfl

theorem upon_keying : (w.upon registries).keying = w.keying := by
  funext o
  unfold keying
  rw [upon_ofMember, upon_rules]
  rfl

theorem upon_keyWithin (depth : Nat) :
    (w.upon registries).keyWithin depth = w.keyWithin depth := by
  induction depth with
  | zero => rfl
  | succ depth ih =>
    funext i
    simp only [keyWithin, validatedKey, ih, upon_keying, upon_readInstance]
    rfl

theorem upon_view : (w.upon registries).view =
    w.view.worded (w.upon registries).objectText (w.upon registries).objectTold := by
  have hkey : (w.upon registries).objectKey = w.objectKey := upon_keyWithin w registries _
  unfold view viewWith
  rw [hkey, upon_read, upon_rules, upon_items?]
  rfl

theorem agree_upon : Objects.Agree w.view (w.upon registries).view := by
  rw [upon_view]
  exact Objects.agree_worded _ _ _

/-! ### Classes -/

section Classes

variable {w} (hw : w.Named)

include hw

theorem Named.ownMember {c : Nat} {attr : String} {m : Member}
    (hm : w.ownMember? c attr = some m) : m.Objectless := by
  have hgiven (v : Value) :
      ((Assoc.get? (w.cls c).members attr).getD (.constant v)).Objectless := by
    cases hfound : Assoc.get? (w.cls c).members attr with
    | none => trivial
    | some m => exact hw c attr m hfound
  unfold ownMember? at hm
  dsimp only at hm
  split at hm <;> try split at hm
  all_goals cases hm
  all_goals first | trivial | exact hgiven _

theorem Named.member {c : Nat} {attr : String} {m : Member} (hm : w.member? c attr = some m) :
    m.Objectless := by
  obtain ⟨a, -, ha⟩ := List.exists_of_findSome?_eq_some hm
  exact hw a attr m ha

theorem Named.classMember {c : Nat} {attr : String} {m : Member}
    (hm : w.classMember? c attr = some m) : m.Objectless := by
  unfold classMember? at hm
  rcases Option.or_eq_some_iff.mp hm with hm | ⟨-, hm⟩
  · rcases Option.or_eq_some_iff.mp hm with hm | ⟨-, hm⟩
    · rcases Option.or_eq_some_iff.mp hm with hm | ⟨-, hm⟩
      · exact hw.ownMember hm
      · exact hw.member hm
    · obtain ⟨r, -, rfl⟩ := Option.map_eq_some_iff.mp hm
      trivial
  · unfold hiddenMember? at hm
    split at hm
    · split at hm <;> cases hm
      trivial
    · cases hm

theorem readClass_upon (c : Nat) (attr : String) :
    (w.upon registries).readClass (w.upon registries).view c attr = w.readClass w.view c attr := by
  have hcls : (w.upon registries).cls = w.cls := rfl
  have hmember : (w.upon registries).classMember? = w.classMember? := rfl
  have hnone : (w.upon registries).noClassAttribute = w.noClassAttribute := rfl
  rw [upon_view]
  unfold readClass
  rw [hcls, hmember, hnone]
  dsimp only
  cases hm : if attr = "__abstractmethods__" then Assoc.get? (w.cls c).members attr
    else w.classMember? c attr with
  | none => rfl
  | some m =>
    have hm : m.Objectless := by
      split at hm
      · exact hw c attr m hm
      · exact hw.classMember hm
    exact hm.ofClass _ _ _ _ _ _

end Classes

end World

end RecordSql
