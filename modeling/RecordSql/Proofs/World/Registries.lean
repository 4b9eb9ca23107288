import RecordSql.Proofs.Frame
import RecordSql.World.Mapping

/-! The making of objects leaves all registries as they are. -/

namespace RecordSql.World

open RecordSql.Action (Keeps)

/-- An action on the world that leaves its registries as they are. -/
abbrev KeepsRegistries {α : Type} (x : Action World α) : Prop := Keeps (·.registries) x

/-- A change that leaves the registries of the world as they are. -/
abbrev ChangeKeeps {α : Type} (x : Action Edited α) : Prop := Keeps (·.world.registries) x

/-! ### What is held -/

theorem keeps_drawing {α : Type} (x : Action Feeds α) : KeepsRegistries (drawing x) :=
  fun _ => rfl

theorem keeps_addObject (o : Instance) : KeepsRegistries (addObject o) :=
  .getBind fun _ => rfl

theorem keeps_kept (v : Value) : KeepsRegistries (kept v) := .getBind fun _ => rfl

theorem keeps_keptInstance (o : Instance) : KeepsRegistries (keptInstance o) := by
  refine .bind (.mapM (fun e => ?_) _) fun _ => .bind (.mapM (fun e => ?_) _) fun _ => .pure _
  · exact .bind (keeps_kept _) fun _ => .bind (keeps_kept _) fun _ => .pure _
  · exact .bind (keeps_kept _) fun _ => .pure _

theorem keeps_added (o : Instance) : KeepsRegistries (added o) :=
  .bind (keeps_keptInstance o) fun _ => .bind (keeps_addObject _) fun _ =>
    .bind .get fun _ => .pure _

theorem registries_foldl {β : Type} {f : World → β → World}
    (hf : ∀ w b, (f w b).registries = w.registries) (l : List β) (w : World) :
    (l.foldl f w).registries = w.registries := by
  induction l generalizing w with
  | nil => rfl
  | cons b l ih => rw [List.foldl_cons, ih, hf]

theorem registries_keepSlots (w : World) (classes : List Nat) :
    (w.keepSlots classes).registries = w.registries := by
  refine registries_foldl (fun v c => ?_) classes w
  dsimp only
  split <;> rfl

theorem keeps_copied (v : Value) : KeepsRegistries (copied v) := by
  refine .getBind fun w => ?_
  dsimp only
  cases (v.references.forM (w.find (w.objects.length + w.feeds.length + 1)) {}).result with
  | error e => rfl
  | ok _ => exact registries_keepSlots _ _

/-! ### Changes of one object -/

theorem keeps_current : ChangeKeeps current := .bind .get fun _ => .pure _

theorem keeps_replace (o : Instance) : ChangeKeeps (replace o) := .modify fun _ => rfl

theorem keeps_replaceVariables (w : World) (v : Value) : ChangeKeeps (w.replaceVariables v) := by
  refine .bind keeps_current fun o => ?_
  split
  · exact .faulty _
  · split
    · exact keeps_replace _
    · exact .faulty _

theorem keeps_leaveTo (w : World) (v : Value) (rule : String) :
    ChangeKeeps (w.leaveTo v rule) := by
  unfold leaveTo
  split
  · split
    · exact .faulty _
    · exact .ofFault _
  · exact .pure _

theorem keeps_setPlain (w : World) (attr : String) (v : Value) :
    ChangeKeeps (w.setPlain attr v) := by
  refine .bind keeps_current fun o => ?_
  dsimp only
  split
  · exact keeps_replace _
  · exact .faulty _
  · exact .faulty _
  · exact keeps_replaceVariables w v
  · split
    · exact keeps_leaveTo w _ _
    · exact .ite (.faulty _) (.ite (keeps_replace _) (.faulty _))

theorem keeps_exchange (w : World) (slot : String) (held : Value) :
    ChangeKeeps (w.exchange slot held) := by
  refine .bind keeps_current fun o => ?_
  split
  · exact .pure _
  · exact keeps_setPlain w _ _

theorem keeps_setBy {w : World} {validated : Schema → Change}
    (hv : ∀ schema, ChangeKeeps (validated schema)) (attr : String) (v : Value) (cs : List Nat) :
    ChangeKeeps (w.setBy validated attr v cs) := by
  induction cs with
  | nil => exact keeps_setPlain w attr v
  | cons c cs ih =>
    refine .bind keeps_current fun o => ?_
    dsimp only
    split
    · exact ih
    · exact .ite (.faulty _) ih
    · exact .ite (hv _) (keeps_setPlain w attr v)
    · exact keeps_setPlain w attr v
    · exact .bind (.liftedFault _) fun _ => .faulty _

theorem keeps_continued {x : Change} (hx : ChangeKeeps x) (o : Instance) :
    KeepsRegistries (continued o x) :=
  fun w => hx { object := o, world := w }

theorem keeps_changing {x : Change} (hx : ChangeKeeps x) (i : Nat) :
    KeepsRegistries (changing i x) :=
  fun w => hx ⟨(w.object? i).getD { cls := root }, w, some i⟩

theorem keeps_started (trusted : Bool) (f : Field) : KeepsRegistries (started trusted f) := by
  refine .bind .get fun w => ?_
  split
  · refine .ite (.bind (.liftedFault _) fun _ => ?_) ?_
    · exact .ite (.bind (keeps_copied _) fun _ => .pure _) (.pure _)
    · exact .ite (.bind (keeps_copied _) fun _ => .pure _) (.pure _)
  · exact .pure _

theorem keeps_filled (trusted : Bool) (fields : List Field) (given : List (String × Value)) :
    KeepsRegistries (filled trusted fields given) := by
  refine .bind (.mapM (fun f => ?_) _) fun _ => .pure _
  split
  · exact .pure _
  · exact keeps_started trusted f

theorem keeps_hiddenValues (schema : Schema) (told : List (String × Value)) :
    KeepsRegistries (hiddenValues schema told) :=
  .bind (keeps_filled true _ _) fun _ => .pure _

theorem keeps_finished (cls : Nat) (schema : Schema) (held told : List (String × Value)) :
    KeepsRegistries (finished cls schema held told) := by
  refine .bind .get fun w => .bind ?_ fun o => .bind (.liftedFault _) fun _ => ?_
  · exact keeps_continued (.forM (fun e => keeps_setPlain w _ _) _) _
  · exact .ite (.pure _) (.bind (keeps_hiddenValues schema told) fun _ =>
      keeps_continued (keeps_setPlain w _ _) o)

/-! ### Validation -/

theorem keeps_runOf (why : Rejection) (most? : Option Nat) (v : Value) :
    KeepsRegistries (runOf why most? v) := by
  unfold runOf
  split
  · exact keeps_drawing _
  · exact .bind .get fun _ => .pure _

theorem keeps_checkItems {check : Value → Grade → Action World Validated}
    (hc : ∀ v g, KeepsRegistries (check v g)) (n : Nat) (ps : Parts Value) (l : List Value) :
    KeepsRegistries (checkItems check n ps l) := by
  induction l generalizing n ps with
  | nil => exact .pure _
  | cons v l ih => exact .bind (hc _ _) fun _ => ih _ _

theorem keeps_asItem (r : Validated) : KeepsRegistries (asItem r) := by
  unfold asItem
  split
  · exact .pure _
  · refine .bind .get fun w => ?_
    split
    · exact .pure _
    · exact .ite (.pure _) (.faulty _)

theorem keeps_distinctSet (make : List Value → Value) (r : Validated) :
    KeepsRegistries (distinctSet make r) := by
  unfold distinctSet
  split
  · exact .bind .get fun _ => .bind (.liftedFault _) fun _ => .pure _
  · exact .pure _

theorem keeps_checkEntry {key value : Value → Grade → Action World Validated}
    (hk : ∀ v g, KeepsRegistries (key v g)) (hv : ∀ v g, KeepsRegistries (value v g))
    (e : Value × Value) (g : Grade) : KeepsRegistries (checkEntry key value e g) := by
  refine .bind .get fun w => .bind (hk _ _) fun r => ?_
  split
  · refine .bind (hv _ _) fun r => ?_
    split
    · exact .bind .get fun _ => .bind (.liftedFault _) fun _ => .pure _
    · exact .pure _
  · refine .bind (hv _ _) fun r => ?_
    split <;> exact .pure _

theorem keeps_checkEntries {check : Value × Value → Grade → Action World (Graded (Value × Value))}
    (hc : ∀ e g, KeepsRegistries (check e g)) (ps : Parts (Value × Value))
    (es : List (Value × Value)) : KeepsRegistries (checkEntries check ps es) := by
  induction es generalizing ps with
  | nil => exact .pure _
  | cons e es ih => exact .bind (hc _ _) fun _ => ih _

namespace Checking

/-- Records of other classes are validated without a change of registries. -/
def KeepsRecords (cx : Checking) : Prop :=
  ∀ isForced c v g, KeepsRegistries (cx.record isForced c v g)

theorem keeps_items (cx : Checking) (why : Rejection) (most? : Option Nat) (v : Value)
    (g : Grade) : KeepsRegistries (cx.items why most? v g) := by
  refine .ite (.pure _) (.bind (keeps_runOf _ _ _) fun r => ?_)
  split <;> exact .pure _

mutual

theorem keeps_check {cx : Checking} (hx : cx.KeepsRecords) :
    ∀ (t : FieldType) (v : Value) (g : Grade), KeepsRegistries (cx.check t v g)
  | .any, v, g => .pure _
  | .null, v, g => .pure _
  | .bool, v, g => .pure _
  | .int, v, g => .pure _
  | .float, v, g => .pure _
  | .text, v, g => .pure _
  | .complex, v, g => .pure _
  | .bytes, v, g => .pure _
  | .never _ _, v, g => .pure _
  | .list t, v, g => by
    by_cases ht : t = .any
    · subst ht
      refine .bind (keeps_items cx _ _ v g) fun r => ?_
      split <;> exact .pure _
    · rw [check]
      · refine .bind (keeps_items cx _ _ v g) fun r => ?_
        split
        · exact .pure _
        · exact .bind (keeps_checkItems (fun v g => keeps_check hx t v g) _ _ _) fun _ => .pure _
      · exact ht
  | .row t, v, g => by
    refine .bind (keeps_items cx _ _ v g) fun r => ?_
    split
    · exact .pure _
    · exact .bind (keeps_checkItems (fun v g => keeps_check hx t v g) _ _ _) fun _ => .pure _
  | .tuple types, v, g => by
    refine .bind (keeps_items cx _ _ v g) fun r => ?_
    split
    · exact .pure _
    · refine .bind (keeps_checkEach hx _ _ types _) fun _ => ?_
      exact .ite (.pure _) (.ite (.pure _) (.pure _))
  | .set t, v, g => by
    refine .bind (keeps_items cx _ _ v g) fun r => ?_
    split
    · exact .pure _
    · exact .bind (keeps_checkItems (fun v g => .bind (keeps_check hx t v g) keeps_asItem) _ _ _)
        fun _ => keeps_distinctSet _ _
  | .fixedSet t, v, g => by
    refine .bind (keeps_items cx _ _ v g) fun r => ?_
    split
    · exact .pure _
    · exact .bind (keeps_checkItems (fun v g => .bind (keeps_check hx t v g) keeps_asItem) _ _ _)
        fun _ => keeps_distinctSet _ _
  | .dict key value, v, g => by
    rw [check.eq_def]
    dsimp only
    split
    · refine .bind (keeps_checkEntries (keeps_checkEntry (fun v g => keeps_check hx key v g)
        fun v g => keeps_check hx value v g) _ _) fun ps => ?_
      split
      · exact .bind .get fun _ => .bind (.liftedFault _) fun _ => .pure _
      · exact .pure _
    · exact .pure _
  | .union types, v, g => by
    have hx' : KeepsRecords { cx with isForced := cx.rules.strict } := hx
    rw [check]
    exact keeps_checkChoices hx' v g none [] types
  | .optional t, v, g => by
    rw [check]
    exact .ite (.pure _) (keeps_check hx t v g)
  | .record c _, v, g => hx _ _ _ _
  | .objectOf c _, v, g => by
    rw [check.eq_def]
    dsimp only
    split
    · exact .bind .get fun _ => .pure _
    · exact .pure _

theorem keeps_checkEach {cx : Checking} (hx : cx.KeepsRecords) :
    ∀ (n : Nat) (ps : Parts Value) (types : List FieldType) (l : List Value),
      KeepsRegistries (cx.checkEach n ps types l)
  | _, _, [], _ => .pure _
  | n, ps, _ :: types, [] => by
    rw [checkEach]
    exact keeps_checkEach hx _ _ types []
  | n, ps, t :: types, v :: l => by
    rw [checkEach]
    exact .bind (keeps_check hx t v _) fun _ => keeps_checkEach hx _ _ types l

theorem keeps_checkChoices {cx : Checking} (hx : cx.KeepsRecords) (v : Value) (before : Grade)
    (best? : Option (Value × Grade)) (problems : List Problem) :
    ∀ types : List FieldType, KeepsRegistries (cx.checkChoices v before best? problems types)
  | [] => .pure _
  | t :: types => by
    rw [checkChoices]
    refine .bind (keeps_check hx t v _) fun r => ?_
    split
    · exact .ite (.pure _) (keeps_checkChoices hx v before _ _ types)
    · exact keeps_checkChoices hx v before _ _ types

end

end Checking

/-! ### Records -/

section Records

variable {cx : Checking} (hx : cx.KeepsRecords)

theorem keeps_value? (s : FieldSource) (name : String) : KeepsRegistries (s.value? name) := by
  unfold FieldSource.value?
  split
  · exact .pure _
  · split
    · exact .pure _
    · refine .bind .get fun w => ?_
      split
      · exact .pure _
      · exact .ite (.pure _) (.pure _)

theorem keeps_object (ps : RecordParts) (cls : Nat) (schema : Schema) (names : Value) :
    KeepsRegistries (ps.object cls schema names) :=
  keeps_finished _ _ _ _

include hx

theorem keeps_checkField (schema : Schema) (source : FieldSource) (f : Field) (g : Grade) :
    KeepsRegistries (checkField cx schema source f g) := by
  refine .bind (keeps_value? _ _) fun r => ?_
  split
  · exact .pure _
  · exact .bind (Checking.keeps_check hx _ _ _) fun _ => .pure _
  · refine .bind (keeps_started _ _) fun s => ?_
    split
    · exact .pure _
    · split
      · exact .bind (Checking.keeps_check hx _ _ _) fun _ => .pure _
      · exact .pure _

theorem keeps_checkFields (schema : Schema) (source : FieldSource)
    (ps : Parts (Field × Value × Bool)) (fields : List Field) :
    KeepsRegistries (checkFields cx schema source ps fields) := by
  induction fields generalizing ps with
  | nil => exact .pure _
  | cons f fields ih => exact .bind (keeps_checkField hx _ _ _ _) fun _ => ih _

theorem keeps_checkRecordParts (schema : Schema) (source : FieldSource) (g : Grade) :
    KeepsRegistries (checkRecordParts cx schema source g) :=
  .bind (keeps_checkFields hx _ _ _ _) fun _ => .bind .get fun _ => .pure _

theorem keeps_checkMade (c : Nat) (schema : Schema) (v : Value) (g : Grade) :
    KeepsRegistries (checkMade cx c schema v g) := by
  refine .bind .get fun w => .ite (.pure _) ?_
  split
  · exact .pure _
  · refine .bind (keeps_checkRecordParts hx _ _ _) fun r => ?_
    split
    · exact .pure _
    · exact .bind (.liftedFault _) fun _ => .bind (keeps_object _ _ _ _) fun _ =>
        .bind (keeps_added _) fun _ => .pure _

theorem keeps_renewed (c : Nat) (schema : Schema) (o : Instance) (g : Grade) :
    KeepsRegistries (renewed cx c schema o g) := by
  refine .bind .get fun w => .bind (.liftedFault _) fun names => .bind (.liftedFault _) fun vars =>
    .bind (.liftedFault _) fun extra => ?_
  extract_lets next
  have hnext (all : Value) : KeepsRegistries (next all) := by
    unfold next
    split
    · exact .pure _
    · refine .bind (keeps_checkRecordParts hx _ _ _) fun r => ?_
      split
      · exact .pure _
      · exact .bind (keeps_object _ _ _ _) fun _ => .bind (keeps_added _) fun _ => .pure _
  split
  · exact .bind (.pure _) hnext
  · split
    · exact .bind (.liftedFault _) fun _ => .bind (.pure _) hnext
    · exact .bind (.faulty _) hnext
    · exact .bind (.faulty _) hnext

end Records

theorem keeps_checkRecord (depth : Nat) (around : List (Nat × Nat)) (isForced : Bool) (c : Nat)
    (v : Value) (g : Grade) : KeepsRegistries (checkRecord depth around isForced c v g) := by
  induction depth generalizing around isForced c v g with
  | zero => exact .pure _
  | succ depth ih =>
    have hx {rules : Validation} {owner : Nat} {isForced : Bool} {around : List (Nat × Nat)} :
        Checking.KeepsRecords ⟨rules, owner, isForced, checkRecord depth around⟩ :=
      fun _ _ _ _ => ih _ _ _ _ _
    refine .bind .get fun w => .ite (.pure _) ?_
    dsimp only
    split
    · exact .pure _
    · split
      · exact .ite (keeps_checkMade hx _ _ _ _) (.ite (keeps_renewed hx _ _ _ _) (.pure _))
      · exact keeps_checkMade hx _ _ _ _

theorem keepsRecords_checking (c : Nat) (schema : Schema) (around : List (Nat × Nat)) :
    (checking c schema around).KeepsRecords :=
  fun _ _ _ _ => keeps_checkRecord _ _ _ _ _ _

theorem keeps_complete (c : Nat) (schema : Schema) : KeepsRegistries (complete c schema) := by
  unfold complete
  dsimp only
  split
  · exact .bind (.faulty _) fun _ => .ite (.modify fun _ => rfl) (.pure _)
  · exact .ite (.modify fun _ => rfl) (.pure _)

/-! ### Setting -/

theorem keeps_putInto (w : World) (slot attr : String) (v : Value) :
    ChangeKeeps (w.putInto slot attr v) := by
  refine .bind keeps_current fun o => .bind (.liftedFault _) fun held => ?_
  split
  · exact keeps_exchange w _ _
  · exact .faulty _
  · exact .ite (keeps_leaveTo w _ _) (.faulty _)

theorem keeps_leaveHidden (w : World) (attr rule : String) :
    ChangeKeeps (w.leaveHidden attr rule) := by
  refine .bind keeps_current fun o => ?_
  split
  · exact .pure _
  · refine .bind (.liftedFault _) fun found => ?_
    split
    · exact .faulty _
    · exact .pure _

theorem keeps_setHidden (w : World) (attr : String) (v : Value) :
    ChangeKeeps (w.setHidden attr v) := by
  refine .bind (keeps_leaveHidden w _ _) fun _ => .bind keeps_current fun o => ?_
  dsimp only
  split
  · exact .bind (keeps_setPlain w _ _) fun _ => keeps_putInto w _ _ _
  · exact keeps_putInto w _ _ _
  · split
    · exact .bind (keeps_setPlain w _ _) fun _ => keeps_putInto w _ _ _
    · exact .bind (.faulty _) fun _ => keeps_putInto w _ _ _

theorem keeps_addGiven (w : World) (attr : String) : ChangeKeeps (w.addGiven attr) := by
  refine .bind keeps_current fun o => .bind (.liftedFault _) fun held => ?_
  split
  · exact keeps_exchange w _ _
  · exact .ofFault _

theorem keeps_setField (w : World) (attr : String) (v : Value) :
    ChangeKeeps (w.setField attr v) :=
  .bind (keeps_putInto w _ _ _) fun _ => keeps_addGiven w _

theorem keeps_toldDict (w : World) (name : String) : ChangeKeeps (w.toldDict name) := by
  refine .bind keeps_current fun o => .bind (.liftedFault _) fun held => ?_
  split
  · exact .pure _
  · exact .faulty _

theorem keeps_toldExtra (w : World) : ChangeKeeps w.toldExtra := by
  refine .bind keeps_current fun o => .bind (.liftedFault _) fun held => ?_
  split
  · exact .pure _
  · exact .pure _
  · exact .faulty _

theorem keeps_addTold (w : World) (attr : String) : ChangeKeeps (w.addTold attr) := by
  refine .bind keeps_current fun o => ?_
  split
  · exact keeps_addGiven w _
  · exact .faulty _
  · exact .pure _

/-- What keeps the registries of the world keeps them where an object is changed. -/
theorem keeps_around {α : Type} {x : Action World α} (hx : KeepsRegistries x) :
    ChangeKeeps (Action.within (·.world) (fun world e => { e with world }) x) :=
  fun e => hx e.world

theorem keeps_admitted (schema : Schema) (attr : String) (v : Value) :
    ChangeKeeps (admitted schema attr v) := by
  refine .ite (.bind .get fun e => ?_) (.ite (.pure _) (.faulty _))
  refine .bind (keeps_around (Checking.keeps_check (keepsRecords_checking _ _ _) _ _ _))
    fun r => ?_
  split
  · exact .pure _
  · exact .faulty _

theorem keeps_setValidating (w : World) (schema : Schema) (attr : String) (v : Value) :
    ChangeKeeps (w.setValidating schema attr v) := by
  refine .bind keeps_current fun o => .bind (keeps_around (keeps_complete _ _)) fun _ =>
    .bind (keeps_toldDict w _) fun vars => .bind (keeps_toldExtra w) fun extra =>
    .bind (keeps_admitted _ _ _) fun v => .bind (keeps_addTold w _) fun _ => .ite ?_ ?_
  · exact .bind (keeps_setPlain w _ _) fun _ => keeps_setPlain w _ _
  · exact .bind (keeps_setPlain w _ _) fun _ => keeps_setPlain w _ _

theorem keeps_keepSetter (attr : String) : ChangeKeeps (keepSetter attr) := by
  refine .modify fun e => ?_
  dsimp only
  split <;> rfl

theorem keeps_setBeyond (w : World) (schema : Schema) (attr : String) (v : Value) :
    ChangeKeeps (w.setBeyond schema attr v) := by
  refine .bind keeps_current fun o => .ite (.faulty _) ?_
  split
  · exact keeps_putInto w _ _ _
  · exact keeps_putInto w _ _ _
  · exact .bind (keeps_setPlain w _ _) fun _ => keeps_keepSetter _

theorem keeps_setValidated (w : World) (schema : Schema) (attr : String) (v : Value) :
    ChangeKeeps (w.setValidated schema attr v) := by
  refine .bind keeps_current fun o => .bind (.liftedFault _) fun _ => .ite (.faulty _) (.ite ?_ ?_)
  · exact .ite (keeps_setPlain w _ _)
      (.bind (keeps_setHidden w _ _) fun _ => keeps_keepSetter _)
  · refine .bind (.liftedFault _) fun _ => .ite (.faulty _) (.ite (keeps_setPlain w _ _) (.ite ?_
      (.ite ?_ (keeps_setBeyond w _ _ _))))
    · exact .bind (keeps_setValidating w _ _ _) fun _ => keeps_keepSetter _
    · exact .bind (keeps_setField w _ _) fun _ => keeps_keepSetter _

theorem keeps_setInstance (w : World) (attr : String) (v : Value) :
    ChangeKeeps (w.setInstance attr v) :=
  .bind keeps_current fun _ => keeps_setBy (fun _ => keeps_setValidated w _ _ _) _ _ _

theorem keeps_setAttr (target : Value) (attr : String) (v : Value) :
    KeepsRegistries (setAttr target attr v) := by
  unfold setAttr
  split
  · exact .bind (keeps_kept _) fun _ => .bind .get fun w =>
      keeps_changing (keeps_setInstance w _ _) _
  · exact .faulty _

/-! ### Construction -/

theorem keeps_initialise (w : World) (fields : List Field) (frozen : Bool)
    (args : Assoc String Value) : ChangeKeeps (w.initialise fields frozen args) := by
  refine .forM (fun f => .ite
    (.bind (.liftedFault _) fun fault? => .bind (.liftedFault _) fun v => ?_)
    (.bind (.liftedFault _) fun v => keeps_setInstance w _ _)) _
  split
  · exact .faulty _
  · exact keeps_setPlain w _ _

theorem keeps_validate (cls : Nat) (schema : Schema) (given : List (String × Value)) :
    KeepsRegistries (validate cls schema given) := by
  refine .bind .get fun w => .bind (.liftedFault _) fun _ => .bind (keeps_complete _ _) fun _ =>
    .bind (keeps_checkRecordParts (keepsRecords_checking _ _ _) _ _ _) fun r => ?_
  split
  · exact .faulty _
  · exact keeps_object _ _ _ _

theorem keeps_revive (cls : Nat) (schema : Schema) (given : List (String × Value)) :
    KeepsRegistries (revive cls schema given) :=
  .bind (keeps_filled _ _ _) fun _ => keeps_finished _ _ _ _

theorem keeps_construct (cls : Nat) (given : Arguments) :
    KeepsRegistries (construct cls given) := by
  refine .bind .get fun w => .bind (.liftedFault _) fun _ => .bind (.liftedFault _) fun _ => ?_
  split
  · exact .pure _
  · split
    · exact .bind (.liftedFault _) fun _ => .bind (keeps_continued (keeps_initialise w _ _ _) _)
        fun _ => .bind (.liftedFault _) fun _ => .pure _
    · refine .ite (.ite (.faulty _) ?_) (.ite (.pure _) (.faulty _))
      split
      · exact keeps_validate _ _ _
      · exact .pure _

/-! ### Mapping -/

theorem keeps_asConstruction {α : Type} (cls : Nat) (kinds : List FaultKind) {x : Action World α}
    (hx : KeepsRegistries x) : KeepsRegistries (asConstruction cls kinds x) :=
  .bind .get fun _ => .mapError hx _

theorem keeps_assemble (cls : Nat) (values : List (String × Value)) :
    KeepsRegistries (assemble cls values) := by
  refine .bind .get fun w => ?_
  split
  · exact .bind (.liftedFault _) fun _ => .bind (keeps_revive _ _ _) fun _ => keeps_added _
  · exact .bind (keeps_asConstruction _ _ (keeps_construct _ _)) fun o => .bind (keeps_added _)
      fun target => .bind (.forM (fun e => keeps_asConstruction _ _ (keeps_setAttr _ _ _)) _)
      fun _ => .pure _

theorem keeps_mapRow (cls r : Nat) (lead : Value) (config : Config) (row : Value) :
    KeepsRegistries (mapRow cls r lead config row) :=
  .bind .get fun _ => .bind (.bind .get fun _ => keeps_drawing _) fun _ => keeps_assemble _ _

theorem keeps_mapDrawn (cls r : Nat) (lead : Value) (config : Config) (rows : Value)
    (drawn : Value × List Value) : KeepsRegistries (mapDrawn cls r lead config rows drawn) :=
  .bind (keeps_drawing _) fun _ => keeps_mapRow cls r lead config drawn.1

end RecordSql.World
