import RecordSql.Factory
import RecordSql.Proofs.Registry.Refusals
import RecordSql.Proofs.Statement.Settings

/-! Statements in one call, and the calls of a builder that they stand for.

A statement in one call decides by truth values which arguments it passes on, while the builder
takes all of them and compilation has tests of its own. Both end alike for every argument, but a
statement in one call asks for the truth value of the conditions, or the kind of what is inserted,
before anything else: where that fails, a chain of calls may fail in another way first. -/

namespace RecordSql

open RecordSql.Action

theorem Where.compile_of_false {ctx : Context} {v : Value} (hv : v.truth ctx.objects = .ok false)
    (config : Config) (t : Table) (mode : AliasMode) (tableAlias : Value) :
    Where.compile ctx config t v mode tableAlias = pure .empty := by
  unfold compile compileBy
  rw [hv]
  rfl

namespace Select

/-- Settings one after the other. The first that is refused ends them. -/
def chain (objects : Objects) (s : Select) (l : List Setting) : Action Feeds Select :=
  l.foldlM (fun s x => x.apply objects s) s

variable {objects : Objects} {s : Select}

theorem chain_append (l l' : List Setting) :
    s.chain objects (l ++ l') = s.chain objects l >>= fun s => s.chain objects l' :=
  List.foldlM_append

/-- Conditions may be set before or after the other settings. -/
theorem apply_where {x : Setting} (hx : x.kind ≠ .conditions) (v : Value) :
    x.apply objects (s.where_ v) = x.apply objects s >>= fun s => pure (s.where_ v) := by
  rw [x.apply_eq, x.apply_eq, bind_assoc]
  have hkind : Yields (fun a : Accepted => a.kind = x.kind) (x.check objects) :=
    fun feeds a h => Accepted.kind_of_check h
  refine hkind.bind_congr fun a ha => ?_
  have hne : a.kind ≠ (Accepted.conditions v).kind := by rwa [ha]
  rw [pure_bind]
  exact congrArg pure (put_comm hne.symm s)

theorem chain_where {l : List Setting} (hl : ∀ x ∈ l, x.kind ≠ .conditions) (v : Value) :
    chain objects (s.where_ v) l = s.chain objects l >>= fun s => pure (s.where_ v) := by
  induction l generalizing s with
  | nil => rfl
  | cons x l ih =>
    obtain ⟨hx, hl⟩ := List.forall_mem_cons.mp hl
    rw [chain, List.foldlM_cons, apply_where hx, bind_assoc, chain, List.foldlM_cons, bind_assoc]
    refine bind_congr fun s' => ?_
    rw [pure_bind]
    exact ih hl

theorem chain_joins (names : List Value) (s : Select) :
    s.chain objects (names.map fun name => .join name .null none) =
      pure { s with joins := s.joins ++ names.map fun name => ⟨name, none, none⟩ } := by
  induction names generalizing s with
  | nil => simp [chain]
  | cons name names ih =>
    have hjoin : (Setting.join name .null none).apply objects s =
        pure { s with joins := s.joins ++ [⟨name, none, none⟩] } := rfl
    rw [List.map_cons, chain, List.foldlM_cons, hjoin, pure_bind]
    refine (ih _).trans ?_
    simp

theorem chain_orders (entries : List (Value × Value)) (s : Select) :
    s.chain objects (entries.map fun e => .order e.1 e.2) =
      liftM (entries.foldlM (fun s e => s.orderBy objects e.1 e.2) s) := by
  induction entries generalizing s with
  | nil => rfl
  | cons e entries ih =>
    rw [List.map_cons, chain, List.foldlM_cons, List.foldlM_cons]
    funext feeds
    rw [Setting.apply, liftM_bind_run]
    cases h : s.orderBy objects e.1 e.2 with
    | error e => rfl
    | ok s' => exact congrFun (ih s') feeds

end Select

section

variable {ctx : Context} {v w : Value}

/-- Conditions that count as false are none. -/
theorem Select.build_where_of_false (hv : v.truth ctx.objects = .ok false)
    (hw : w.truth ctx.objects = .ok false) (s : Select) :
    (s.where_ v).build ctx = (s.where_ w).build ctx := by
  simp only [build, where_, Where.compile_of_false hv, Where.compile_of_false hw]

theorem Update.build_where_of_false (hv : v.truth ctx.objects = .ok false)
    (hw : w.truth ctx.objects = .ok false) (u : Update) :
    (u.where_ v).build ctx = (u.where_ w).build ctx := by
  simp only [build, where_, Where.compile_of_false hv, Where.compile_of_false hw]

theorem Delete.build_where_of_false (hv : v.truth ctx.objects = .ok false)
    (hw : w.truth ctx.objects = .ok false) (d : Delete) :
    (d.where_ v).build ctx = (d.where_ w).build ctx := by
  simp only [build, where_, Where.compile_of_false hv, Where.compile_of_false hw]

end

namespace Factory

/-- The names that are given as relations in one call: a list, a tuple, or none. -/
def names? : Value → Option (List Value)
  | .null => some []
  | .list l _ | .tuple l _ => some l
  | _ => none

/-- The entries that are given as an ordering in one call. -/
def entries? : Value → Option (List (Value × Value))
  | .null => some []
  | .dict es _ => some es
  | _ => none

/-- The settings besides the conditions that the arguments of a selection stand for: what is not
given sets nothing. -/
def Selection.settings (a : Selection) (names : List Value) (entries : List (Value × Value)) :
    List Select.Setting :=
  (names.map fun name => .join name .null none) ++ (entries.map fun e => .order e.1 e.2) ++
    (if a.limit.isNull then [] else [.limit a.limit]) ++
    (if a.offset.isNull then [] else [.offset a.offset])

variable {objects : Objects}

theorem joinMany_eq_chain {v : Value} {names : List Value} (h : names? v = some names)
    (s : Select) :
    (do if ← v.truth objects then s.joinMany objects v else pure s : Action Feeds Select) =
      s.chain objects (names.map fun name => .join name .null none) := by
  rw [Select.chain_joins]
  cases v with
  | null =>
    cases h
    rw [List.map_nil, List.append_nil]
    rfl
  | list _ _ | tuple _ _ =>
    cases h
    cases names with
    | nil =>
      rw [List.map_nil, List.append_nil]
      rfl
    | cons name names => rfl
  | _ => cases h

theorem orderingEntries_eq {v : Value} {entries : List (Value × Value)}
    (h : entries? v = some entries) : orderingEntries objects v = .ok entries := by
  cases v with
  | null =>
    cases h
    rfl
  | dict _ _ =>
    cases h
    cases entries with
    | nil => rfl
    | cons e entries => rfl
  | _ => cases h

theorem kind_of_mem_settings {a : Selection} {names : List Value}
    {entries : List (Value × Value)} {x : Select.Setting} (hx : x ∈ a.settings names entries) :
    x.kind ≠ .conditions := by
  simp only [Selection.settings, List.mem_append, List.mem_map] at hx
  rcases hx with ((⟨name, -, rfl⟩ | ⟨e, -, rfl⟩) | hx) | hx
  · nofun
  · nofun
  · split at hx
    · cases hx
    · obtain rfl := List.mem_singleton.mp hx
      nofun
  · split at hx
    · cases hx
    · obtain rfl := List.mem_singleton.mp hx
      nofun

/-- A setting that is made only if it is given. -/
theorem chain_ite (s : Select) (isNull : Bool) (x : Select.Setting) :
    s.chain objects (if isNull then [] else [x]) =
      if isNull then pure s else x.apply objects s := by
  cases isNull with
  | true => rfl
  | false => simp [Select.chain]

/-- A selection in one call asks for the truth value of its conditions, and is then the chain of
calls that its arguments stand for. -/
theorem select_eq (f : Factory) {a : Selection} {names : List Value}
    {entries : List (Value × Value)} (hn : names? a.relations = some names)
    (he : entries? a.ordering = some entries) :
    f.select a = (do
      let _ ← a.conditions.truth f.context.objects
      let s ← (f.createSelect a.entity).chain f.context.objects
        (.conditions a.conditions :: a.settings names entries)
      s.build f.context) := by
  have hrest (s : Select) : (do
      let s ← (do if ← a.relations.truth f.context.objects then
        s.joinMany f.context.objects a.relations else pure s)
      let entries ← orderingEntries f.context.objects a.ordering
      let s ← (entries.foldlM (fun s e => s.orderBy f.context.objects e.1 e.2) s :
        Except Error Select)
      let s ← (if a.limit.isNull then pure s else s.setLimit f.context.objects a.limit)
      let s ← (if a.offset.isNull then pure s else s.setOffset f.context.objects a.offset)
      s.build f.context : Action Feeds Statement) =
      s.chain f.context.objects (a.settings names entries) >>= fun s => s.build f.context := by
    rw [joinMany_eq_chain hn, orderingEntries_eq he]
    simp only [Selection.settings, Select.chain_append, Select.chain_orders, chain_ite, bind_assoc]
    rfl
  have hwhere (v : Value) : (f.createSelect a.entity).chain f.context.objects
      (.conditions v :: a.settings names entries) >>= (fun s => s.build f.context) =
      (f.createSelect a.entity).chain f.context.objects (a.settings names entries) >>=
        fun s => (s.where_ v).build f.context := by
    have hset : (f.createSelect a.entity).chain f.context.objects
        (.conditions v :: a.settings names entries) =
        Select.chain f.context.objects ((f.createSelect a.entity).where_ v)
          (a.settings names entries) := rfl
    rw [hset, Select.chain_where fun x hx => kind_of_mem_settings hx, bind_assoc]
    rfl
  cases ht : a.conditions.truth f.context.objects with
  | error e => rw [select, ht, liftM_error_bind, liftM_error_bind]
  | ok isGiven =>
    cases isGiven with
    | true =>
      rw [select, ht]
      refine Eq.trans ?_ (hrest ((f.createSelect a.entity).where_ a.conditions))
      simp only [ite_bind, bind_assoc]
      rfl
    | false =>
      rw [select, ht]
      refine Eq.trans ?_ ((hrest (f.createSelect a.entity)).trans ?_)
      · simp only [ite_bind, bind_assoc]
        rfl
      refine Eq.trans ?_ (hwhere a.conditions).symm
      refine (hwhere .null).trans (bind_congr fun s => ?_)
      exact Select.build_where_of_false rfl ht s

/-- An update in one call asks for the truth value of its conditions first. -/
theorem update_eq (f : Factory) (entity source conditions : Value) :
    f.update entity source conditions = (do
      let _ ← conditions.truth f.context.objects
      (((f.createUpdate entity).set source).where_ conditions).build f.context) := by
  cases ht : conditions.truth f.context.objects with
  | error e => rw [update, ht, liftM_error_bind, liftM_error_bind]
  | ok isGiven =>
    rw [update, ht, liftM_ok_bind, liftM_ok_bind]
    cases isGiven with
    | true => rw [if_pos rfl]
    | false =>
      rw [if_neg Bool.false_ne_true]
      exact Update.build_where_of_false rfl ht ((f.createUpdate entity).set source)

/-- So does a deletion. -/
theorem delete_eq (f : Factory) (entity conditions : Value) :
    f.delete entity conditions = (do
      let _ ← conditions.truth f.context.objects
      ((f.createDelete entity).where_ conditions).build f.context) := by
  cases ht : conditions.truth f.context.objects with
  | error e => rw [delete, ht, liftM_error_bind, liftM_error_bind]
  | ok isGiven =>
    rw [delete, ht, liftM_ok_bind, liftM_ok_bind]
    cases isGiven with
    | true => rw [if_pos rfl]
    | false =>
      rw [if_neg Bool.false_ne_true]
      exact Delete.build_where_of_false rfl ht (f.createDelete entity)

/-- A batch is inserted into the table of the given entity, or else of the class of its first
source. -/
theorem insert_eq_batch (f : Factory) {sources first : Value} {rest : List Value}
    (h : batch? sources = some (first :: rest)) (entity : Value) :
    f.insert sources entity = (do
      let isGiven ← entity.truth f.context.objects
      let i ← (f.createInsert (if isGiven then entity else .cls first.classOf)).valuesMany
        f.context.objects sources
      i.build f.context) := by
  cases sources with
  | list _ _ | tuple _ _ =>
    cases h
    rfl
  | _ => cases h

theorem insert_eq_empty (f : Factory) {sources : Value} (h : batch? sources = some [])
    (entity type : Value) :
    f.insert sources entity = (do
      let i ← (f.createInsert type).valuesMany f.context.objects sources
      i.build f.context) := by
  cases sources with
  | list _ _ | tuple _ _ =>
    cases h
    rfl
  | _ => cases h

/-- What is no batch is asked for its kind first. -/
theorem insert_eq_single (f : Factory) {source : Value} (h : batch? source = none)
    (entity : Value) :
    f.insert source entity = (do
      source.checkKind f.context.objects
      let isGiven ← entity.truth f.context.objects
      ((f.createInsert (if isGiven then entity else .cls source.classOf)).values source).build
        f.context) := by
  rw [insert, h]
  rfl

/-- A statement in one call is the chain of calls that its arguments stand for, whatever is empty or
zero among them, once it has the truth value of the conditions, or else the kind of what is inserted
and the truth value of the entity. -/
theorem one_call_eq_chain (f : Factory) :
    (∀ a names entries, names? a.relations = some names → entries? a.ordering = some entries →
      f.select a = (do
        let _ ← a.conditions.truth f.context.objects
        let s ← (f.createSelect a.entity).chain f.context.objects
          (.conditions a.conditions :: a.settings names entries)
        s.build f.context)) ∧
    (∀ entity source conditions, f.update entity source conditions = (do
      let _ ← conditions.truth f.context.objects
      (((f.createUpdate entity).set source).where_ conditions).build f.context)) ∧
    (∀ entity conditions, f.delete entity conditions = (do
      let _ ← conditions.truth f.context.objects
      ((f.createDelete entity).where_ conditions).build f.context)) ∧
    (∀ sources first rest entity, batch? sources = some (first :: rest) →
      f.insert sources entity = (do
        let isGiven ← entity.truth f.context.objects
        let i ← (f.createInsert (if isGiven then entity else .cls first.classOf)).valuesMany
          f.context.objects sources
        i.build f.context)) ∧
    (∀ sources entity type, batch? sources = some [] →
      f.insert sources entity = (do
        let i ← (f.createInsert type).valuesMany f.context.objects sources
        i.build f.context)) ∧
    ∀ source entity, batch? source = none →
      f.insert source entity = (do
        source.checkKind f.context.objects
        let isGiven ← entity.truth f.context.objects
        ((f.createInsert (if isGiven then entity else .cls source.classOf)).values source).build
          f.context) := by
  refine ⟨?_, f.update_eq, f.delete_eq, ?_, ?_, ?_⟩
  · intro a names entries hn he
    exact f.select_eq hn he
  · intro sources first rest entity h
    exact f.insert_eq_batch h entity
  · intro sources entity type h
    exact f.insert_eq_empty h entity type
  · intro source entity h
    exact f.insert_eq_single h entity

/-- Pets without conditions, relations and ordering, and with a limit of zero. -/
def noPets : Selection where
  entity := .cls (.plain "Pet")
  conditions := .dict []
  relations := .list []
  ordering := .dict []
  limit := .int 0

theorem one_call_eq_chain_pets :
    let f : Factory := ⟨petContext, .usual⟩
    let row := Value.dict [(.text "name", .text "Rex")]
    f.select noPets = (do
      let s ← (f.createSelect noPets.entity).chain noObjects
        [.conditions (.dict []), .limit (.int 0)]
      s.build petContext) ∧
    f.insert (.list [row]) (.cls (.plain "Pet")) = (do
      let i ← (f.createInsert (.cls (.plain "Pet"))).valuesMany noObjects (.list [row])
      i.build petContext) ∧
    f.insert row (.cls (.plain "Pet")) =
      ((f.createInsert (.cls (.plain "Pet"))).values row).build petContext := by
  intro f row
  obtain ⟨hselect, -, -, hbatch, -, hsingle⟩ := one_call_eq_chain f
  exact ⟨hselect noPets [] [] rfl rfl, hbatch (.list [row]) row [] _ rfl, hsingle row _ rfl⟩

/-- For an object without a truth value and without attributes, in the place of conditions or of a
source, a call fails for the object where the chain fails for the missing table. -/
theorem one_call_fails_first :
    let w := World.oddWorld ["__bool__", "__getattribute__"]
    let odd := World.oddObject ["__bool__", "__getattribute__"]
    let f : Factory := ⟨⟨∅, Operators.builtin, w.view, w.scope⟩, .usual⟩
    let pet := Value.cls (.plain "Pet")
    (f.delete pet odd []).result = .error (.fault (.notCallable "int")) ∧
      (((f.createDelete pet).where_ odd).build f.context []).result =
        .error (.notRegistered pet) ∧
      (f.insert odd pet []).result = .error (.fault (.notCallable "int")) ∧
      (((f.createInsert pet).values odd).build f.context []).result =
        .error (.notRegistered pet) :=
  ⟨rfl, rfl, rfl, rfl⟩

end Factory

end RecordSql
