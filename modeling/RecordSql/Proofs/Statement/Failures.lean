import RecordSql.Builder
import RecordSql.Proofs.Landing
import RecordSql.Proofs.Registry.Stranding
import RecordSql.Proofs.Views

/-! What statements can fail for. Where the values in a statement answer what they are asked, every
build that fails does so with one of the library's own errors, but for an UPDATE by an object that
tells neither the fields it was given nor its variables. -/

namespace RecordSql

open RecordSql.Action (Lands)

/-! ### Values that answer -/

/-- An object that answers: it may lack an attribute, but nothing else goes wrong as it is read; it
tells its class, and has no rules of its own for truth and for being gone through. It tells the
fields it was given, if it tells any, as a set of texts, and its variables, if it has any, as a
dictionary. -/
structure Objects.Answers (objects : Objects) (i : Nat) : Prop where
  reads : ∀ attr f, objects.read i attr = .error f → f.kind = .attr
  tells : ∃ c, objects.read i "__class__" = .ok (.cls c)
  isTrue : objects.rule i "__bool__" = .usual ∧ objects.rule i "__len__" = .usual
  passes : objects.rule i "__iter__" = .usual
  items : ∀ r, objects.items? i = some r → ∃ l, r = .ok l
  given : ∀ v, objects.read i "model_fields_set" = .ok v →
    v = .null ∨ ∃ (l : List String) (n : Nat), v = .set (l.map .text) n
  vars : ∀ v, objects.read i "__dict__" = .ok v → ∃ es n, v = .dict es n

namespace Value

/-- A value that is one of the known objects, if it is an object. -/
def Usual (known : Nat → Prop) : Value → Prop
  | object i _ => known i
  | _ => True

section

variable {objects : Objects} {v : Value} (h : v.Usual objects.Answers)

include h

theorem Usual.attr_error {name : String} {f : Fault} (hf : v.attr objects name = .error f) :
    f.kind = .attr := by
  cases v with
  | object i _ => exact h.reads name f hf
  | _ => exact congrArg Fault.kind (elim_eq_error hf)

theorem Usual.attrOr (name : String) (absent : Value) :
    ∃ x, v.attrOr objects name absent = .ok x := by
  rw [Value.attrOr]
  cases hr : v.attr objects name with
  | ok x => exact ⟨x, rfl⟩
  | error f =>
    refine ⟨absent, ?_⟩
    rw [Fault.ifPresent, if_pos (h.attr_error hr)]
    rfl

theorem Usual.checkKind : v.checkKind objects = .ok () := by
  cases v with
  | object i c =>
    obtain ⟨x, hx⟩ := Usual.attrOr (v := object i c) h "__class__" null
    rw [Value.checkKind, hx]
    rfl
  | _ => rfl

theorem Usual.checkClass : v.checkClass objects = .ok () := by
  cases v with
  | object i c =>
    obtain ⟨c, hc⟩ := h.tells
    rw [Value.checkClass, hc]
    rfl
  | _ => rfl

theorem Usual.truth : v.truth objects = .ok v.truthy := by
  cases v with
  | object i c =>
    rw [Value.truth, apply, apply, h.isTrue.1, h.isTrue.2]
    rfl
  | _ => rfl

theorem Usual.isIterable : ∃ b, v.isIterable objects = .ok b := by
  cases v with
  | object i c =>
    rw [Value.isIterable, h.checkClass, h.passes]
    exact ⟨_, rfl⟩
  | _ => exact ⟨_, rfl⟩

/-- What tells that it can be gone through has items. -/
theorem Usual.items (hv : ∀ i, v ≠ feed i) (hi : v.isIterable objects = .ok true) :
    ∃ l, v.items objects = .ok l := by
  cases v with
  | object i c =>
    rw [Value.isIterable, h.checkClass, h.passes] at hi
    obtain ⟨r, hr⟩ := Option.isSome_iff_exists.mp (Except.ok.inj hi)
    obtain ⟨l, rfl⟩ := h.items r hr
    refine ⟨l, ?_⟩
    rw [Value.items, objectItems, h.passes]
    dsimp only
    rw [hr]
  | feed i => exact absurd rfl (hv i)
  | _ => first | exact ⟨_, rfl⟩ | cases hi

theorem Usual.elements {e : Error → Prop} (hi : v.isIterable objects = .ok true) :
    Lands (fun _ => True) e (fun _ _ => True) (v.elements objects) := by
  by_cases hv : ∃ i, v = feed i
  · obtain ⟨i, rfl⟩ := hv
    exact .getBind fun _ _ => .bind (r := fun _ _ => True) (.modify fun _ _ => trivial) fun _ =>
      .pure fun _ _ => trivial
  · have hv : ∀ i, v ≠ feed i := fun i hi => hv ⟨i, hi⟩
    obtain ⟨l, hl⟩ := h.items hv hi
    have helements : v.elements objects = Action.ofFault (v.items objects) := by
      cases v with
      | feed i => exact absurd rfl (hv i)
      | _ => rfl
    rw [helements, hl]
    exact .ofExcept (fun _ he => nomatch he) fun _ _ _ _ => trivial

end

end Value

/-! ### Predicates -/

theorem Error.IsTold.severalOperators (key : String) (tokens : List String) :
    (Error.severalOperators (.text key) tokens).IsTold := by
  refine .of_message nofun fun objects => ?_
  rw [Error.message, Value.shown_texts_ok]
  exact ⟨_, rfl⟩

theorem Error.IsTold.notRegistered (c : ClassRef) : (Error.notRegistered (.cls c)).IsTold := by
  refine .of_message nofun fun objects => ?_
  rw [Error.message, Value.entityName_cls]
  exact ⟨_, rfl⟩

/-- A conversion that fails with one of the library's own errors. -/
def Binding.FailsOwn (bind : Binding) : Prop := ∀ v e, bind v = .error e → e.IsTold

/-- The faults of a transformer are told as its own failure. -/
theorem Column.failsOwn_stored (objects : Objects) (c : Option Column) :
    Binding.FailsOwn (Column.stored objects c) := by
  intro v e he
  cases c with
  | none => cases he
  | some c =>
    obtain ⟨f, -, rfl⟩ := mapError_eq_error.mp he
    exact .transformation ..

theorem Column.isTold_of_loaded {objects : Objects} {c : Column} {v : Value} {e : Error}
    (he : c.loaded objects v = .error e) : e.IsTold := by
  rw [loaded] at he
  split at he
  · cases he
  · obtain ⟨f, -, rfl⟩ := mapError_eq_error.mp he
    exact .transformation ..

/-- A handler that fails with the library's own errors alone, for an operand that answers. -/
def Handler.FailsOwn (h : Handler) : Prop :=
  ∀ (objects : Objects) (reference : String) (operand : Value) (bind : Binding),
    operand.Usual objects.Answers → bind.FailsOwn →
    Lands (fun _ => True) Error.IsTold (fun _ _ => True) (h objects reference operand bind)

namespace Handler

theorem failsOwn_comparison (symbol : String) : (comparison symbol).FailsOwn :=
  fun _ _ operand _ _ hb => .bind (.lifted (hb operand)) fun _ => .pure fun _ _ => trivial

theorem failsOwn_like : like.FailsOwn := fun _ _ _ _ _ _ => .pure fun _ _ => trivial

theorem failsOwn_null : null.FailsOwn := by
  intro objects reference operand bind ho _
  exact .known ho.truth (.pure fun _ _ => trivial)

theorem failsOwn_member : member.FailsOwn := by
  intro objects reference operand bind ho hb
  have hrefused : Lands (fun _ => True) Error.IsTold (fun _ _ => True)
      (Action.fail (.notSequence reference) : Action Feeds Fragment) :=
    .fail (.of_message nofun fun _ => ⟨_, rfl⟩)
  obtain ⟨b, hi⟩ := ho.isIterable
  unfold member
  split
  · exact hrefused
  · exact hrefused
  · refine .known ho.checkKind (.known hi (.ite (fun hb' => ?_) fun _ => hrefused))
    subst hb'
    refine .bind (ho.elements hi) fun items => .ite (fun _ => .pure fun _ _ => trivial) fun _ => ?_
    refine .bind (.lifted fun e he => ?_) fun _ => .pure fun _ _ => trivial
    obtain ⟨v, -, hv⟩ := exists_of_mapM_error he
    exact hb v e hv

end Handler

theorem Operators.failsOwn_builtin : ∀ e ∈ builtin, e.2.FailsOwn := by
  simp only [builtin, List.forall_mem_cons, Handler.failsOwn_comparison, Handler.failsOwn_like,
    Handler.failsOwn_null, Handler.failsOwn_member]
  simp

/-! ### Conditions -/

/-- A condition of usual values, whose token is a text. -/
def Condition.Usual (known : Nat → Prop) : Condition → Prop
  | literal _ => True
  | operator token operand => (∃ s, token = .text s) ∧ operand.Usual known

namespace Where

/-- A value of a condition set that is usual, and whose parts are. -/
def EntryUsual (known : Nat → Prop) : Value → Prop
  | .literal _ _ => True
  | .operator token operand _ => (Condition.operator token operand).Usual known
  | .dict es _ => ∀ e ∈ es, e.1.Usual known ∧ e.2.Usual known
  | v => v.Usual known

/-- Conditions under texts, if there are any, with usual values. -/
def Usual (known : Nat → Prop) (conditions : Value) : Prop :=
  conditions = .null ∨ ∃ es n, conditions = .dict es n ∧
    ∀ e ∈ es, (∃ s, e.1 = .text s) ∧ EntryUsual known e.2

end Where

section

variable {objects : Objects}

theorem Condition.operatorEntries_ok {es : List (Value × Value)}
    (h : ∀ e ∈ es, e.1.Usual objects.Answers ∧ e.2.Usual objects.Answers) :
    ∃ l, operatorEntries objects es = .ok l ∧ ∀ e ∈ l, e.2.Usual objects.Answers := by
  induction es with
  | nil => exact ⟨[], rfl, fun _ he => absurd he List.not_mem_nil⟩
  | cons e es ih =>
    obtain ⟨l, hl, hanswers⟩ := ih fun e' he => h e' (List.mem_cons_of_mem e he)
    obtain ⟨k, v⟩ := e
    obtain ⟨hk, hv⟩ := h (k, v) List.mem_cons_self
    cases k with
    | text s =>
      rw [operatorEntries, hl]
      refine ⟨_, rfl, fun e he => ?_⟩
      split at he
      · rcases List.mem_cons.mp he with rfl | he
        · exact hv
        · exact hanswers e he
      · exact hanswers e he
    | _ =>
      rw [operatorEntries, hk.checkKind, hl]
      · exact ⟨l, rfl, hanswers⟩
      · exact fun _ h => nomatch h

theorem Condition.lands_ofValue (s : String) {v : Value}
    (hv : Where.EntryUsual objects.Answers v) (strict : Bool) :
    Lands (fun _ => True) Error.IsTold (fun c _ => c.Usual objects.Answers)
      (ofValue objects (.ok strict) (.text s) v) := by
  have hplain (hv : v.Usual objects.Answers) : Lands (fun _ => True) Error.IsTold
      (fun c _ => c.Usual objects.Answers) (do
        v.checkKind objects
        v.checkClass objects
        return literal v : Action Feeds Condition) :=
    .known hv.checkKind (.known hv.checkClass (.pure fun _ _ => trivial))
  cases v with
  | literal v n => exact .pure fun _ _ => trivial
  | operator token operand n => exact .pure fun _ _ => hv
  | dict es n =>
    obtain ⟨l, hl, hanswers⟩ := operatorEntries_ok hv
    rw [ofValue, hl]
    cases l with
    | nil => exact .pure fun _ _ => trivial
    | cons e l =>
      have hfirst : (operator (.text e.1) e.2).Usual objects.Answers :=
        ⟨⟨e.1, rfl⟩, hanswers e List.mem_cons_self⟩
      cases l with
      | nil => exact .pure fun _ _ => hfirst
      | cons _ _ =>
        refine .ite (fun _ => .fail (.severalOperators ..)) fun _ => ?_
        exact .bind (r := fun _ _ => True) (.report _) fun _ => .pure fun _ _ => hfirst
  | _ => exact hplain hv

end

/-- A text that has no handler is refused. -/
theorem Operators.handler_text (objects : Objects) (ops : Operators) (s : String) :
    ops.handler objects (.text s) =
      (Assoc.get? ops s).elim (.error (.unsupported (.text s))) .ok := by
  have hfound : ops.find? (.text s) = Assoc.get? ops s := rfl
  rw [handler, Value.key, Value.keyWith, hfound]
  cases Assoc.get? ops s <;> rfl

theorem Operators.lands_handler (objects : Objects) (s : String) :
    Lands (fun _ => True) Error.IsTold (fun h _ => h.FailsOwn)
      (liftM (builtin.handler objects (.text s)) : Action Feeds Handler) := by
  rw [handler_text]
  cases hfound : Assoc.get? builtin s with
  | none =>
    exact .ofExcept (fun _ he => Except.error.inj he ▸ .of_message nofun fun _ => ⟨_, rfl⟩)
      fun _ _ h => nomatch h
  | some h =>
    refine .ofExcept (fun _ h => nomatch h) fun h' _ hh' _ => ?_
    obtain rfl := Except.ok.inj hh'
    exact failsOwn_builtin _ (Assoc.mem_of_get? hfound)

namespace Where

variable {ctx : Context} {config : Config} {t : Table}

theorem lands_columnFor (s : String) : Lands (fun _ => True) Error.IsTold (fun _ _ => True)
    (columnFor ctx.objects (reading ctx config) t (.text s)) := by
  refine .known (Value.sought_text ctx.objects s t.columns (·.propertyKey)) ?_
  split
  · exact .pure fun _ _ => trivial
  · refine .known rfl (.ite (fun _ => .fail (.of_message nofun fun _ => ⟨_, rfl⟩)) fun _ => ?_)
    exact .bind (r := fun _ _ => True) (.report _) fun _ => .pure fun _ _ => trivial

theorem columnName_text (objects : Objects) (column : Option Column) (s : String) :
    ∃ name, columnName objects column (.text s) = .ok name := by
  cases column with
  | none => exact ⟨s, rfl⟩
  | some c => exact ⟨c.name, rfl⟩

theorem lands_fragment (hops : ctx.operators = .builtin) (lead : String) {entry : Value × Value}
    (hk : ∃ s, entry.1 = .text s) (hv : EntryUsual ctx.objects.Answers entry.2) :
    Lands (fun _ => True) Error.IsTold (fun _ _ => True)
      (fragment ctx.objects (reading ctx config) t lead entry) := by
  obtain ⟨key, v⟩ := entry
  obtain ⟨s, rfl⟩ : ∃ s, key = .text s := hk
  refine .bind (lands_columnFor s) fun column => ?_
  refine .bind ((Condition.lands_ofValue s hv config.strict).mono (fun _ _ => trivial)
    (fun _ h => h) fun _ _ h => h) fun condition => ?_
  obtain ⟨name, hname⟩ := columnName_text ctx.objects column s
  refine .known hname ?_
  have hbind := Column.failsOwn_stored ctx.objects column
  cases condition with
  | literal v => exact .bind (.lifted (hbind v)) fun _ => .pure fun _ _ => trivial
  | operator token operand =>
    refine .assuming fun ⟨⟨s', hs'⟩, ho⟩ => ?_
    subst hs'
    refine .bind (r := fun h _ => h.FailsOwn) ?_ fun h => .assuming fun hh => hh _ _ _ _ ho hbind
    rw [reading, hops]
    exact Operators.lands_handler ctx.objects s'

theorem qualifier_text (objects : Objects) (mode : AliasMode) {tableAlias : Value}
    (ha : tableAlias = .null ∨ ∃ s, tableAlias = .text s) :
    ∃ lead, qualifier objects mode t tableAlias = .ok lead := by
  cases mode with
  | none => exact ⟨"", rfl⟩
  | tableName =>
    rw [qualifier, aliasOf]
    rcases ha with rfl | ⟨s, rfl⟩
    · exact ⟨_, rfl⟩
    · have htruth : (Value.text s).truth objects = .ok (Value.text s).truthy := rfl
      rw [htruth, ok_bind]
      split <;> exact ⟨_, rfl⟩

/-- Conditions that answer are compiled, or refused by one of the library's own errors. -/
theorem lands_compile (hops : ctx.operators = .builtin) {conditions : Value}
    (hc : Usual ctx.objects.Answers conditions) (mode : AliasMode) {tableAlias : Value}
    (ha : tableAlias = .null ∨ ∃ s, tableAlias = .text s) :
    Lands (fun _ => True) Error.IsTold (fun _ _ => True)
      (compile ctx config t conditions mode tableAlias) := by
  have htruth : conditions.truth ctx.objects = .ok conditions.truthy := by
    rcases hc with rfl | ⟨es, n, rfl, -⟩ <;> rfl
  refine .known htruth (.ite (fun _ => .pure fun _ _ => trivial) fun htrue => ?_)
  rcases hc with rfl | ⟨es, n, rfl, hes⟩
  · exact absurd rfl htrue
  obtain ⟨lead, hlead⟩ := qualifier_text (t := t) ctx.objects mode ha
  refine .bind (.lifted fun _ h => nomatch h) fun mode' => .given fun hmode => ?_
  obtain rfl := Except.ok.inj hmode
  refine .known hlead (.known (b := es) rfl ?_)
  refine .bind (.mapM (p := fun _ => True) fun e he => ?_) fun _ => .pure fun _ _ => trivial
  exact lands_fragment hops lead (hes e he).1 (hes e he).2

end Where

/-! ### Sources -/

namespace Source

variable {objects : Objects}

/-- Sources that are mappings or known objects. -/
inductive Usual (known : Nat → Prop) : Value → Prop
  | null : Usual known .null
  | dict (es : List (Value × Value)) (n : Nat) : Usual known (.dict es n)
  | object {i : Nat} (c : ClassRef) (h : known i) : Usual known (.object i c)

theorem Usual.value {known : Nat → Prop} {source : Value} (h : Usual known source) :
    source.Usual known := by
  cases h with
  | null => trivial
  | dict _ _ => trivial
  | object _ h => exact h

/-- An object that tells neither the fields it was given nor its variables. -/
def Untold (objects : Objects) (source : Value) : Prop :=
  read objects source "model_fields_set" = .ok .null ∧
    ∃ i c f, source = .object i c ∧ objects.read i "__dict__" = .error f

theorem read_ok {source : Value} (h : Value.Usual objects.Answers source) (key : String) :
    ∃ v, read objects source key = .ok v := by
  cases source with
  | dict es n => exact ⟨_, rfl⟩
  | _ =>
    rw [read, h.checkClass]
    · exact h.attrOr key .null
    · exact fun _ _ h => nomatch h

theorem isTold_of_cell {source : Value} (h : Value.Usual objects.Answers source) {c : Column}
    {e : Error} (he : cell objects source c = .error e) : e.IsTold := by
  obtain ⟨v, hv⟩ := read_ok h c.propertyKey
  rw [cell, hv] at he
  exact Column.failsOwn_stored objects (some c) v e he

theorem putDistinct_texts (objects : Objects) (k : Key) {e : Value × Value}
    (he : ∃ s, e.1 = .text s) {m : Assoc Key (Value × Value)} (hm : ∀ d ∈ m, ∃ s, d.2.1 = .text s) :
    ∃ m', Value.putDistinct objects k e m = .ok m' ∧ ∀ d ∈ m', ∃ s, d.2.1 = .text s := by
  induction m with
  | nil =>
    refine ⟨_, rfl, fun d hd => ?_⟩
    obtain rfl := List.mem_singleton.mp hd
    exact he
  | cons d m ih =>
    obtain ⟨m', hm', htexts⟩ := ih fun d' hd => hm d' (List.mem_cons_of_mem d hd)
    obtain ⟨s, hs⟩ := hm d List.mem_cons_self
    have hequal : d.2.1.checkEquality objects = .ok () := by
      rw [hs]
      rfl
    by_cases hk : d.1 = k
    · refine ⟨(d.1, d.2.1, e.2) :: m, ?_, fun d' hd => ?_⟩
      · rw [Value.putDistinct, hequal, if_pos hk]
        split <;> rfl
      · rcases List.mem_cons.mp hd with rfl | hd
        · exact ⟨s, hs⟩
        · exact hm d' (List.mem_cons_of_mem d hd)
    · refine ⟨d :: m', ?_, fun d' hd => ?_⟩
      · rw [Value.putDistinct, hequal, if_neg hk, hm']
        split <;> rfl
      · rcases List.mem_cons.mp hd with rfl | hd
        · exact ⟨s, hs⟩
        · exact htexts d' hd

/-- Texts are told apart. -/
theorem distinct_texts (objects : Objects) (l : List String) :
    ∃ l', Value.distinct objects (l.map .text) = .ok l' := by
  -- the values that were put so far are texts, which can be compared to each other
  have hfold (m : Assoc Key (Value × Value)) (hm : ∀ d ∈ m, ∃ s, d.2.1 = .text s) :
      ∃ m', ((l.map Value.text).map fun v => (v, Value.null)).foldlM
        (fun (m : Assoc Key (Value × Value)) (e : Value × Value) => do
          Value.putDistinct objects (← e.1.key objects) e m) m = .ok m' := by
    induction l generalizing m with
    | nil => exact ⟨m, rfl⟩
    | cons s l ih =>
      obtain ⟨m', hm', htexts⟩ := putDistinct_texts objects (.atom (.text s))
        (e := (.text s, .null)) ⟨s, rfl⟩ hm
      rw [List.map_cons, List.map_cons, List.foldlM_cons]
      have hkey : (Value.text s).key objects = .ok (.atom (.text s)) := rfl
      rw [hkey, ok_bind, hm', ok_bind]
      exact ih m' htexts
  obtain ⟨m', hm'⟩ := hfold [] fun _ h => absurd h List.not_mem_nil
  rw [Value.distinct, Value.distinctEntries, hm']
  exact ⟨_, rfl⟩

/-- What an object tells under a name, or null if it lacks it. -/
theorem read_object {i : Nat} {c : ClassRef} (h : objects.Answers i) (key : String) :
    (∃ v, objects.read i key = .ok v ∧ read objects (.object i c) key = .ok v) ∨
      (∃ f, objects.read i key = .error f) ∧ read objects (.object i c) key = .ok .null := by
  have hclass : (Value.object i c).checkClass objects = .ok () :=
    Value.Usual.checkClass (v := .object i c) h
  have hread : read objects (.object i c) key = (Value.object i c).attrOr objects key .null := by
    rw [read, hclass]
    · rfl
    · exact fun _ _ h => nomatch h
  cases hr : objects.read i key with
  | ok v =>
    refine .inl ⟨v, rfl, hread.trans ?_⟩
    rw [Value.attrOr, Value.attr, Value.attrBy, hr]
    rfl
  | error f =>
    refine .inr ⟨⟨f, rfl⟩, hread.trans ?_⟩
    rw [Value.attrOr, Value.attr, Value.attrBy, hr, Fault.ifPresent, if_pos (h.reads key f hr)]
    rfl

/-- The variables of an object are told, unless it has none. -/
theorem variableKeys_object {i : Nat} {c : ClassRef} (h : objects.Answers i) :
    (∃ l, variableKeys objects (.object i c) = .ok l) ∨
      (∃ f, objects.read i "__dict__" = .error f) ∧
        variableKeys objects (.object i c) = .error .noVariables := by
  have hattr : (Value.object i c).attr objects "__dict__" = objects.read i "__dict__" := rfl
  rw [variableKeys, hattr]
  cases hr : objects.read i "__dict__" with
  | ok v =>
    obtain ⟨es, n, rfl⟩ := h.vars v hr
    exact .inl ⟨_, rfl⟩
  | error f =>
    refine .inr ⟨⟨f, rfl⟩, ?_⟩
    dsimp only
    rw [if_pos (h.reads _ f hr)]

/-- The keys that a source supplies are told, unless it is an object that tells nothing. -/
theorem lands_supplied {source : Value} (h : Usual objects.Answers source) :
    Lands (fun _ => True) (fun e => Untold objects source ∧ e = .fault .noVariables)
      (fun _ _ => True) (Update.supplied objects source) := by
  cases h with
  | null => exact .pure fun _ _ => trivial
  | dict es n => exact .pure fun _ _ => trivial
  | @object i c hi =>
    have hvars (hnull : read objects (.object i c) "model_fields_set" = .ok .null) :
        Lands (fun _ => True) (fun e => Untold objects (.object i c) ∧ e = .fault .noVariables)
          (fun _ _ => True) (presentKeys objects (.object i c)) := by
      refine .known hnull ((Lands.liftedFault fun f hf => ?_).mono (fun _ h => h) (fun _ h => h)
        fun _ _ _ => trivial)
      rcases variableKeys_object (c := c) hi with ⟨l, hl⟩ | ⟨⟨f', hf'⟩, hnone⟩
      · rw [hl] at hf
        cases hf
      · rw [hnone] at hf
        cases hf
        exact ⟨⟨hnull, i, c, f', rfl, hf'⟩, rfl⟩
    show Lands _ _ _ (presentKeys objects (.object i c))
    rcases read_object (c := c) hi "model_fields_set" with ⟨v, hv, hread⟩ | ⟨-, hnull⟩
    · rcases hi.given v hv with rfl | ⟨l, n, rfl⟩
      · exact hvars hread
      · refine .known hread ?_
        obtain ⟨l', hl'⟩ := distinct_texts objects l
        exact .known (b := l.map Value.text) rfl (.known hl' (.pure fun _ _ => trivial))
    · exact hvars hnull

end Source

/-! ### Statements -/

/-- A table whose columns are excluded by usual values, and whose relations lead to classes. -/
structure Table.Usual (known : Nat → Prop) (scope : Scope) (t : Table) : Prop where
  excluded : ∀ c ∈ t.columns, c.excludeFromInsert.Usual known ∧ c.excludeFromUpdate.Usual known
  targets : ∀ r ∈ t.relations, ∃ c, r.target.resolve scope = .ok (.cls c)

/-- A context in which the table of an entity is usual, if it has one. -/
def Context.Serves (ctx : Context) (entity : Value) : Prop :=
  ∀ t, ctx.registry.table ctx.objects entity = .ok t → t.Usual ctx.objects.Answers ctx.scope

/-- A request for a relation of a name, with a further predicate that is always told. -/
def JoinRequest.Usual (r : JoinRequest) : Prop :=
  (∃ s, r.relation = .text s) ∧ ∀ on, r.on = some on → ∀ table, ∃ s, on table = .ok s

/-- A builder of usual values, whose alias and ordering keys are texts. -/
def Builder.Usual (known : Nat → Prop) : Builder → Prop
  | .select s => (s.tableAlias = .null ∨ ∃ a, s.tableAlias = .text a) ∧
      (∀ r ∈ s.joins, r.Usual) ∧ (∀ k ∈ (Assoc.values s.ordering).map (·.1), ∃ a, k = .text a) ∧
      Where.Usual known s.conditions
  | .insert i => ∀ v ∈ i.rows.getD [], v.Usual known
  | .update u => Source.Usual known u.source ∧ Where.Usual known u.conditions
  | .delete d => Where.Usual known d.conditions

section

variable {known known' : Nat → Prop} (h : ∀ i, known i → known' i)

include h

theorem Value.Usual.mono {v : Value} (hv : v.Usual known) : v.Usual known' := by
  cases v with
  | object i _ => exact h i hv
  | _ => trivial

theorem Where.EntryUsual.mono {v : Value} (hv : EntryUsual known v) : EntryUsual known' v := by
  cases v with
  | object i _ => exact h i hv
  | operator token operand _ => exact hv.imp_right (Value.Usual.mono h)
  | dict es _ => exact fun e he => ⟨(hv e he).1.mono h, (hv e he).2.mono h⟩
  | _ => trivial

theorem Where.Usual.mono {conditions : Value} (hc : Where.Usual known conditions) :
    Where.Usual known' conditions :=
  hc.imp_right fun ⟨es, n, hes, hu⟩ => ⟨es, n, hes, fun e he => (hu e he).imp_right (·.mono h)⟩

theorem Source.Usual.mono {source : Value} (hs : Source.Usual known source) :
    Source.Usual known' source := by
  cases hs with
  | null => exact .null
  | dict es n => exact .dict es n
  | object c hi => exact .object c (h _ hi)

theorem Table.Usual.mono {scope : Scope} {t : Table} (ht : t.Usual known scope) :
    t.Usual known' scope where
  excluded c hc := ⟨(ht.excluded c hc).1.mono h, (ht.excluded c hc).2.mono h⟩
  targets := ht.targets

theorem Builder.Usual.mono {b : Builder} (hb : b.Usual known) : b.Usual known' := by
  cases b with
  | select s => exact ⟨hb.1, hb.2.1, hb.2.2.1, hb.2.2.2.mono h⟩
  | insert i => exact fun v hv => (hb v hv).mono h
  | update u => exact ⟨hb.1.mono h, hb.2.mono h⟩
  | delete d => exact Where.Usual.mono h hb

end

section

variable {ctx : Context}

theorem Registry.isTold_of_table {r : Registry} {objects : Objects} {c : ClassRef} {e : Error}
    (he : r.table objects (.cls c) = .error e) : e.IsTold := by
  have hkey : (Value.cls c).key objects = .ok (.atom (.cls c)) := rfl
  rw [table, hkey] at he
  rcases bind_eq_error.mp he with he | ⟨k, -, he⟩
  · cases he
  · split at he <;> cases he
    exact .notRegistered c

theorem Join.isTold_of_expand {config : Config} {t : Table}
    (ht : t.Usual ctx.objects.Answers ctx.scope) {tableAlias : String} {request : JoinRequest}
    (hr : request.Usual) {e : Error}
    (he : expand ctx config t tableAlias request = .error e) : e.IsTold := by
  obtain ⟨⟨s, hs⟩, hon⟩ := hr
  rw [expand, hs] at he
  have hfound : t.relation? ctx.objects (.text s) =
    .ok (t.relations.find? fun r => s = r.propertyKey) := Value.sought_text ..
  rcases bind_eq_error.mp he with he | ⟨relation, hrelation, he⟩
  · rw [hfound] at he
    cases he
  rw [hfound] at hrelation
  obtain rfl := Except.ok.inj hrelation
  cases hr : t.relations.find? fun r => s = r.propertyKey with
  | none =>
    rw [hr] at he
    cases he
    exact .of_message nofun fun _ => ⟨_, rfl⟩
  | some r =>
    rw [hr] at he
    obtain ⟨c, hc⟩ := ht.targets r (List.mem_of_find?_eq_some hr)
    dsimp only [expansion, ok_bind] at he
    rw [hc] at he
    rcases bind_eq_error.mp he with he | ⟨entity, hentity, he⟩
    · cases he
    cases hentity
    rcases bind_eq_error.mp he with he | ⟨target, -, he⟩
    · exact Registry.isTold_of_table he
    have hextra : ∃ x, extra request.on r = .ok x := by
      cases ho : request.on with
      | none => exact ⟨"", rfl⟩
      | some on =>
        obtain ⟨x, hx⟩ := hon on ho r.targetTable
        exact ⟨x, by rw [extra, hx]; rfl⟩
    obtain ⟨x, hx⟩ := hextra
    rw [hx] at he
    cases he

theorem Insert.lands_build {i : Insert} {c : ClassRef} (hc : i.entity = .cls c)
    (hb : ∀ v ∈ i.rows.getD [], v.Usual ctx.objects.Answers)
    (ht : ctx.Serves i.entity) :
    Lands (fun _ => True) Error.IsTold (fun _ _ => True) (i.build ctx) := by
  rw [Insert.build]
  cases hr : i.rows with
  | none => exact .fail (.of_message nofun fun _ => ⟨_, rfl⟩)
  | some rows =>
    rw [hr] at hb
    cases rows with
    | nil => exact .fail (.of_message nofun fun _ => ⟨_, rfl⟩)
    | cons v vs =>
      refine .bind (.lifted fun e he => ?_) fun t => .given fun hfound => ?_
      · rw [hc] at he
        exact Registry.isTold_of_table he
      have ht := ht t hfound
      refine .bind (.liftedFault fun f hf => ?_) fun columns => ?_
      · obtain ⟨c', hc', hf⟩ := exists_of_filterM_error hf
        rw [(ht.excluded c' hc').1.truth] at hf
        cases hf
      refine .ite (fun _ => .fail (.of_message nofun fun _ => ⟨_, rfl⟩)) fun _ => ?_
      refine .bind (r := fun _ _ => True) (.ofExcept (fun e he => ?_) fun _ _ _ _ => trivial)
        fun params => ?_
      · obtain ⟨source, hsource, he⟩ := exists_of_mapM_error he
        obtain ⟨c', -, he⟩ := exists_of_mapM_error he
        exact Source.isTold_of_cell (hb source hsource) he
      · exact .bind (r := fun _ _ => True) (.report _) fun _ => .pure fun _ _ => trivial

theorem Update.isTold_of_assignments {t : Table} (ht : t.Usual ctx.objects.Answers ctx.scope)
    {source : Value} (hs : source.Usual ctx.objects.Answers) {supplied : List Value} {e : Error}
    (he : assignments ctx.objects t source supplied = .error e) : e.IsTold := by
  rcases bind_eq_error.mp he with he | ⟨l, -, he⟩
  · obtain ⟨c, hc, he⟩ := exists_of_mapM_error he
    rw [assignment, (ht.excluded c hc).2.truth] at he
    rcases bind_eq_error.mp he with he | ⟨b, -, he⟩
    · cases he
    split at he
    · cases he
    split at he
    · rcases bind_eq_error.mp he with he | ⟨v, -, he⟩
      · exact Source.isTold_of_cell hs he
      · cases he
    · cases he
  · cases he

theorem Update.lands_build (hops : ctx.operators = .builtin) {u : Update} {c : ClassRef}
    (hc : u.entity = .cls c) (hs : Source.Usual ctx.objects.Answers u.source)
    (hw : Where.Usual ctx.objects.Answers u.conditions)
    (ht : ctx.Serves u.entity) :
    Lands (fun _ => True)
      (fun e => e.IsTold ∨ Source.Untold ctx.objects u.source ∧ e = .fault .noVariables)
      (fun _ _ => True) (u.build ctx) := by
  refine .bind (.lifted fun e he => ?_) fun t => .given fun hfound => ?_
  · rw [hc] at he
    exact .inl (Registry.isTold_of_table he)
  have ht := ht t hfound
  refine .bind ((Source.lands_supplied hs).mono (fun _ h => h) (fun _ h => .inr h) fun _ _ h => h)
    fun supplied => ?_
  refine .bind (r := fun _ _ => True) (.ofExcept (fun e he => ?_) fun _ _ _ _ => trivial)
    fun assigned => .ite (fun _ => .fail ?_) fun _ => ?_
  · exact .inl (isTold_of_assignments ht hs.value he)
  · exact .inl (.of_message nofun fun _ => ⟨_, rfl⟩)
  · refine .bind (r := fun _ _ => True) ((Where.lands_compile hops hw u.mode (.inl rfl)).mono
      (fun _ h => h) (fun _ h => .inl h) fun _ _ h => h) fun conditions => ?_
    exact .bind (r := fun _ _ => True) (.report _) fun _ => .pure fun _ _ => trivial

theorem Delete.lands_build (hops : ctx.operators = .builtin) {d : Delete} {c : ClassRef}
    (hc : d.entity = .cls c) (hw : Where.Usual ctx.objects.Answers d.conditions) :
    Lands (fun _ => True) Error.IsTold (fun _ _ => True) (d.build ctx) := by
  refine .bind (.lifted fun e he => ?_) fun t => ?_
  · rw [hc] at he
    exact Registry.isTold_of_table he
  refine .bind ((Where.lands_compile hops hw d.mode (.inl rfl)).mono (fun _ _ => trivial)
    (fun _ h => h) fun _ _ h => h) fun conditions => ?_
  exact .bind (r := fun _ _ => True) (.report _) fun _ => .pure fun _ _ => trivial

theorem Select.orderClause_ok (objects : Objects) (t : Table) (tableAlias : String)
    {es : List (Value × SortDirection)} (hkeys : ∀ k ∈ es.map (·.1), ∃ a, k = .text a) :
    ∃ s, orderClause objects t tableAlias (es.map fun e => (e.1, .ok e.2.label)) = .ok s := by
  have hentry : ∀ e ∈ es.map fun e => (e.1, (.ok e.2.label : Except Fault String)),
      ∀ f, orderEntry objects t tableAlias e ≠ .error f := by
    intro e he f hf
    obtain ⟨⟨key, direction⟩, hmem, rfl⟩ := List.mem_map.mp he
    obtain ⟨a, rfl⟩ : ∃ a, key = .text a := hkeys key (List.mem_map_of_mem hmem)
    have hfound : t.column? objects (.text a) =
      .ok (t.columns.find? fun c => a = c.propertyKey) := Value.sought_text ..
    rw [orderEntry, hfound] at hf
    obtain ⟨name, hname⟩ :=
      Where.columnName_text objects (t.columns.find? fun c => a = c.propertyKey) a
    rw [ok_bind, hname] at hf
    cases hf
  cases hes : es.map fun e => (e.1, (.ok e.2.label : Except Fault String)) with
  | nil => exact ⟨"", rfl⟩
  | cons e l =>
    cases ho : orderClause objects t tableAlias (e :: l) with
    | ok s => exact ⟨s, rfl⟩
    | error f =>
      rcases bind_eq_error.mp ho with hf | ⟨_, -, hf⟩
      · obtain ⟨e', he', hf⟩ := exists_of_mapM_error hf
        exact absurd hf (hentry e' (hes ▸ he') f)
      · cases hf

theorem Select.lands_build (hops : ctx.operators = .builtin) {s : Select} {c : ClassRef}
    (hc : s.entity = .cls c) (hb : (Builder.select s).Usual ctx.objects.Answers)
    (ht : ctx.Serves s.entity) :
    Lands (fun _ => True) Error.IsTold (fun _ _ => True) (s.build ctx) := by
  obtain ⟨halias, hjoins, hkeys, hw⟩ := hb
  refine .bind (.lifted fun e he => ?_) fun t => .given fun hfound => ?_
  · rw [hc] at he
    exact Registry.isTold_of_table he
  have ht := ht t hfound
  have htruth : s.tableAlias.truth ctx.objects = .ok s.tableAlias.truthy := by
    rcases halias with h | ⟨a, h⟩ <;> rw [h] <;> rfl
  obtain ⟨name, hname⟩ : ∃ name,
      (if s.tableAlias.truthy = true then s.tableAlias else .text t.name) = Value.text name := by
    rcases halias with h | ⟨a, h⟩
    · exact ⟨t.name, by rw [h]; rfl⟩
    · rw [h]
      split <;> exact ⟨_, rfl⟩
  refine .known htruth ?_
  dsimp only
  rw [hname]
  refine .known (Value.written_text ctx.objects name) ?_
  refine .bind (r := fun _ _ => True) (.ofExcept (fun e he => ?_) fun _ _ _ _ => trivial)
    fun joins => ?_
  · obtain ⟨request, hrequest, he⟩ := exists_of_mapM_error he
    exact Join.isTold_of_expand ht (hjoins request hrequest) he
  refine .bind (Where.lands_compile hops hw .tableName (.inr ⟨name, rfl⟩)) fun conditions => ?_
  obtain ⟨ordering, hordering⟩ := orderClause_ok ctx.objects t name hkeys
  refine .known hordering ?_
  exact .bind (r := fun _ _ => True) (.report _) fun _ => .pure fun _ _ => trivial

/-- A build that fails does so with one of the library's own errors, unless it updates by an object
that tells nothing. -/
theorem Builder.lands_build (hops : ctx.operators = .builtin) {b : Builder} {c : ClassRef}
    (hc : b.entity = .cls c) (hb : b.Usual ctx.objects.Answers)
    (ht : ctx.Serves b.entity) :
    Lands (fun _ => True) (fun e => e.IsTold ∨
      ∃ u, b = .update u ∧ Source.Untold ctx.objects u.source ∧ e = .fault .noVariables)
      (fun _ _ => True) (b.build ctx) := by
  have hown {x : Action Feeds Statement}
      (h : Lands (fun _ => True) Error.IsTold (fun _ _ => True) x) :
      Lands (fun _ => True) (fun e => e.IsTold ∨
        ∃ u, b = .update u ∧ Source.Untold ctx.objects u.source ∧ e = .fault .noVariables)
        (fun _ _ => True) x := h.mono (fun _ h => h) (fun _ h => .inl h) fun _ _ h => h
  cases b with
  | select s => exact hown (Select.lands_build hops hc hb ht)
  | insert i => exact hown (Insert.lands_build hc hb ht)
  | update u =>
    exact (Update.lands_build hops hc hb.1 hb.2 ht).mono (fun _ h => h)
      (fun _ h => h.imp id fun ⟨hu, he⟩ => ⟨u, rfl, hu, he⟩) fun _ _ h => h
  | delete d => exact hown (Delete.lands_build hops hc hb)

end

end RecordSql
