import RecordSql.Proofs.Computation
import RecordSql.Registry

/-! What a registry holds for one entity, and what a registration does to it.

A registration looks at the entry of its entity alone. It either leaves the registry as it is or
adds one thing to that entry. -/

namespace RecordSql

/-- What is asked of a registry for an entity. -/
inductive Request where
  | column (g : ColumnGiven)
  | relation (g : RelationGiven)
  | table (name : Value)

/-- A registration, over the objects as they are when it is made. -/
structure Registration where
  objects : Objects
  entity : Value
  request : Request

/-- What a registry holds for one entity. -/
structure Entry where
  table? : Option Table := none
  columns : List Column := []
  relations : List Relation := []

/-- What a registration adds to an entry. -/
inductive Addition where
  | column (c : Column)
  | relation (r : Relation)
  | table (t : Table)

/-- How a registration ends: in what, with which addition, and with which notices. -/
structure Verdict where
  result : Except Error Unit
  addition? : Option Addition
  log : List Notice

namespace Registration

/-- Registers what is asked for. -/
def run (x : Registration) : Action Registry Unit :=
  match x.request with
  | .column g => Registry.registerColumn x.objects x.entity g
  | .relation g => Registry.registerRelation x.objects x.entity g
  | .table name => Registry.registerTable x.objects x.entity name

/-- The key of the entity. -/
def key? (x : Registration) : Option Key := (x.entity.key x.objects).toOption

theorem key?_eq_some {x : Registration} {k : Key} :
    x.key? = some k ↔ x.entity.key x.objects = .ok k := by
  unfold key?
  cases x.entity.key x.objects <;> simp [Except.toOption]

theorem key?_eq_none {x : Registration} :
    x.key? = none ↔ ∃ f, x.entity.key x.objects = .error f := by
  unfold key?
  cases x.entity.key x.objects <;> simp [Except.toOption]

/-! ### Verdicts -/

/-- The column that is added to pending ones. -/
def checkColumn (objects : Objects) (entity : Value) (pending : List Column) (g : ColumnGiven) :
    Except Error Column := do
  let key ← requireText objects .columnKey g.propertyKey
  let name ← requireText objects .columnName g.name
  match Registry.clash? pending key name entity with
  | some e => throw e
  | none => return ⟨key, name, g.transformer, g.excludeFromInsert, g.excludeFromUpdate⟩

/-- The relation that is added to pending ones. -/
def checkRelation (objects : Objects) (entity : Value) (pending : List Relation)
    (g : RelationGiven) : Except Error Relation := do
  let kind ← RelationKind.given objects g.kind
  let key ← requireText objects .relationKey g.propertyKey
  let selfReference ← requireText objects .selfReference g.selfReference
  let targetTable ← requireText objects .targetTable g.targetTable
  let targetColumn ← requireText objects .targetColumn g.targetColumn
  let target ← g.target.check objects
  if pending.any fun p => p.propertyKey = key then throw (.duplicate .relation key entity)
  else return ⟨kind, key, selfReference, targetTable, targetColumn, target⟩

/-- The table that pending definitions are made final in. -/
def checkTable (objects : Objects) (entity : Value) (x : Entry) (name : Value) :
    Except Error Table := do
  let name ← requireText objects .tableName name
  if x.columns.isEmpty then throw (.noColumns name)
  else return ⟨entity, name, x.columns, x.relations⟩

/-- What is added to an entry without a table. -/
def check (x : Registration) (e : Entry) : Except Error Addition :=
  match x.request with
  | .column g => (checkColumn x.objects x.entity e.columns g).map .column
  | .relation g => (checkRelation x.objects x.entity e.relations g).map .relation
  | .table name => (checkTable x.objects x.entity e name).map .table

/-- The notice that an entry with a table is left as it is. -/
def ignored (x : Registration) (label : Value) : Notice :=
  match x.request with
  | .column g => .columnIgnored label g.propertyKey
  | .relation g => .relationIgnored label g.propertyKey
  | .table _ => .tableIgnored label

/-- Ends with a notice that names the entity, if it has a name. -/
def announced (x : Registration) (addition? : Option Addition) (notice : Value → Notice) :
    Verdict :=
  match x.entity.entityName x.objects with
  | .ok label => ⟨.ok (), addition?, [notice label]⟩
  | .error f => ⟨.error (.fault f), addition?, []⟩

/-- How a registration ends for an entry. -/
def verdict (x : Registration) (e : Entry) : Verdict :=
  match e.table? with
  | some _ => x.announced none x.ignored
  | none => match x.check e with
    | .error err => ⟨.error err, none, []⟩
    | .ok (.table t) => x.announced (some (.table t)) fun label =>
        .tableRegistered t.name label t.columns.length t.relations.length
    | .ok a => ⟨.ok (), some a, []⟩

end Registration

/-! ### What passes the checks -/

theorem requireText_eq_ok {objects : Objects} {subject : Subject} {v : Value} {s : String} :
    requireText objects subject v = .ok s ↔ v = .text s ∧ ¬Text.isBlank s := by
  unfold requireText
  split
  · rename_i t
    constructor
    · intro h
      split at h
      · cases h
      · rename_i hb
        cases h
        exact ⟨rfl, hb⟩
    · rintro ⟨⟨rfl⟩, hb⟩
      rw [if_neg hb]
  · rename_i h
    constructor
    · intro hs
      obtain ⟨_, _, hs⟩ := bind_eq_ok.mp hs
      cases hs
    · rintro ⟨rfl, _⟩
      exact absurd rfl (h s)

theorem RelationKind.given_eq_ok {objects : Objects} {v : Value} {kind : RelationKind} :
    RelationKind.given objects v = .ok kind ↔ ofValue? v = some kind := by
  unfold RelationKind.given
  cases ofValue? v with
  | some k => simp
  | none =>
    constructor
    · intro h
      obtain ⟨_, _, h⟩ := bind_eq_ok.mp h
      cases h
    · rintro ⟨⟩

theorem Registry.clash?_eq_none {pending : List Column} {key name : String} {entity : Value} :
    clash? pending key name entity = none ↔
      ∀ c ∈ pending, c.propertyKey ≠ key ∧ c.name ≠ name := by
  rw [clash?, List.findSome?_eq_none_iff]
  refine forall₂_congr fun c _ => ?_
  split
  · simp_all
  · split <;> simp_all

namespace Registration

variable {objects : Objects} {entity : Value}

theorem of_checkColumn {pending : List Column} {g : ColumnGiven} {c : Column}
    (h : checkColumn objects entity pending g = .ok c) :
    g = ⟨.text c.propertyKey, .text c.name, c.transformer, c.excludeFromInsert,
      c.excludeFromUpdate⟩ ∧ ¬Text.isBlank c.propertyKey ∧ ¬Text.isBlank c.name ∧
      ∀ d ∈ pending, d.propertyKey ≠ c.propertyKey ∧ d.name ≠ c.name := by
  obtain ⟨givenKey, givenName, transformer, fromInsert, fromUpdate⟩ := g
  obtain ⟨key, hk, h⟩ := bind_eq_ok.mp h
  obtain ⟨name, hn, h⟩ := bind_eq_ok.mp h
  obtain ⟨rfl, hkey⟩ := requireText_eq_ok.mp hk
  obtain ⟨rfl, hname⟩ := requireText_eq_ok.mp hn
  cases hp : Registry.clash? pending key name entity with
  | some e => simp [hp] at h
  | none =>
    rw [hp] at h
    cases h
    exact ⟨rfl, hkey, hname, Registry.clash?_eq_none.mp hp⟩

theorem of_checkRelation {pending : List Relation} {g : RelationGiven} {r : Relation}
    (h : checkRelation objects entity pending g = .ok r) :
    RelationKind.ofValue? g.kind = some r.kind ∧ g.target.check objects = .ok r.target ∧
      (∀ d ∈ pending, d.propertyKey ≠ r.propertyKey) ∧
      (g.propertyKey = .text r.propertyKey ∧ ¬Text.isBlank r.propertyKey) ∧
      (g.selfReference = .text r.selfReference ∧ ¬Text.isBlank r.selfReference) ∧
      (g.targetTable = .text r.targetTable ∧ ¬Text.isBlank r.targetTable) ∧
      g.targetColumn = .text r.targetColumn ∧ ¬Text.isBlank r.targetColumn := by
  obtain ⟨kind, hkind, h⟩ := bind_eq_ok.mp h
  obtain ⟨key, hk, h⟩ := bind_eq_ok.mp h
  obtain ⟨selfReference, hs, h⟩ := bind_eq_ok.mp h
  obtain ⟨targetTable, ht, h⟩ := bind_eq_ok.mp h
  obtain ⟨targetColumn, hc, h⟩ := bind_eq_ok.mp h
  obtain ⟨target, htarget, h⟩ := bind_eq_ok.mp h
  split at h
  · cases h
  · rename_i hp
    cases h
    rw [List.any_eq_true, not_exists] at hp
    exact ⟨RelationKind.given_eq_ok.mp hkind, htarget,
      fun d hd he => hp d ⟨hd, decide_eq_true he⟩, requireText_eq_ok.mp hk,
      requireText_eq_ok.mp hs, requireText_eq_ok.mp ht, requireText_eq_ok.mp hc⟩

theorem of_checkTable {e : Entry} {name : Value} {t : Table}
    (h : checkTable objects entity e name = .ok t) :
    ∃ text, name = .text text ∧ ¬Text.isBlank text ∧ e.columns ≠ [] ∧
      t = ⟨entity, text, e.columns, e.relations⟩ := by
  obtain ⟨text, hn, h⟩ := bind_eq_ok.mp h
  obtain ⟨hname, hb⟩ := requireText_eq_ok.mp hn
  split at h
  · cases h
  · rename_i hne
    cases h
    exact ⟨text, hname, hb, by simpa using hne, rfl⟩

end Registration

/-! ### Entries of a registry -/

namespace Entry

/-- An entry with an addition. A table takes the place of what was pending. -/
def plus (e : Entry) : Addition → Entry
  | .column c => { e with columns := e.columns ++ [c] }
  | .relation r => { e with relations := e.relations ++ [r] }
  | .table t => { table? := some t }

/-- An entry after a registration for its entity. -/
def after (e : Entry) (x : Registration) : Entry := (x.verdict e).addition?.elim e e.plus

end Entry

namespace Registry

/-- What is held for the entity of a key. -/
def entry (r : Registry) (objects : Objects) (k : Key) : Entry :=
  ⟨r.tableAt? objects k, r.pendingColumnsOf objects k, r.pendingRelationsOf objects k⟩

/-- The registry with an addition to the entry of an entity. -/
def add (r : Registry) (objects : Objects) (k : Key) (entity : Value) : Addition → Registry
  | .column c => { r with
      pendingColumns := Holdings.put objects r.pendingColumns k entity
        (r.pendingColumnsOf objects k ++ [c]) }
  | .relation l => { r with
      pendingRelations := Holdings.put objects r.pendingRelations k entity
        (r.pendingRelationsOf objects k ++ [l]) }
  | .table t => {
      tables := Holdings.put objects r.tables k entity t
      pendingColumns := Holdings.erase objects r.pendingColumns k
      pendingRelations := Holdings.erase objects r.pendingRelations k }

/-- Lookups go by the entry of the entity. -/
theorem table_eq (r : Registry) (objects : Objects) (entity : Value) :
    r.table objects entity = match entity.key objects with
      | .error f => .error (.fault f)
      | .ok k => (r.entry objects k).table?.elim (.error (.notRegistered entity)) .ok := by
  unfold Registry.table entry
  cases entity.key objects with
  | error f => rfl
  | ok k =>
    dsimp only
    show (match r.tableAt? objects k with
      | some t => Except.ok t
      | none => Except.error (Error.notRegistered entity)) = _
    cases r.tableAt? objects k <;> rfl

theorem entry_add {objects : Objects} {entity : Value} {k : Key}
    (hk : entity.key objects = .ok k) (r : Registry) (a : Addition) (j : Key) :
    (r.add objects k entity a).entry objects j =
      if k = j then (r.entry objects k).plus a else r.entry objects j := by
  by_cases h : k = j
  · subst h
    cases a <;>
      simp [entry, add, Entry.plus, tableAt?, pendingColumnsOf, pendingRelationsOf,
        Holdings.get?_put hk, Holdings.get?_erase]
  · cases a <;>
      simp [entry, add, tableAt?, pendingColumnsOf, pendingRelationsOf, Holdings.get?_put hk,
        Holdings.get?_erase, h]

end Registry

namespace Registration

open Registry

theorem contains_eq (r : Registry) (objects : Objects) (k : Key) :
    Holdings.contains objects r.tables k = (r.entry objects k).table?.isSome := rfl

theorem announced_addition? (x : Registration) (addition? : Option Addition)
    (notice : Value → Notice) : (x.announced addition? notice).addition? = addition? := by
  unfold announced
  cases x.entity.entityName x.objects <;> rfl

theorem announced_run (x : Registration) (addition? : Option Addition) (notice : Value → Notice)
    (r : Registry) :
    ((liftM (x.entity.entityName x.objects) : Action Registry Value) >>= fun label =>
        Action.report (notice label)) r =
      ⟨(x.announced addition? notice).result, r, (x.announced addition? notice).log⟩ := by
  rw [Action.liftM_fault_bind_run, announced]
  cases x.entity.entityName x.objects <;> rfl

variable {objects : Objects} {entity : Value} {k : Key}

theorem registerColumn_run (hk : entity.key objects = .ok k) (g : ColumnGiven) (r : Registry) :
    registerColumn objects entity g r =
      let v := verdict ⟨objects, entity, .column g⟩ (r.entry objects k)
      ⟨v.result, v.addition?.elim r (r.add objects k entity), v.log⟩ := by
  unfold registerColumn
  rw [Action.liftM_fault_bind_run, hk]
  dsimp only
  rw [Action.get_bind_run, Action.ite_run, contains_eq]
  cases ht : (r.entry objects k).table? with
  | some t =>
    simp only [verdict, ht, Option.isSome_some, if_true, announced_addition?]
    exact announced_run ⟨objects, entity, .column g⟩ none _ r
  | none =>
    have hp : (r.entry objects k).columns = r.pendingColumnsOf objects k := rfl
    simp only [verdict, ht, Option.isSome_none, Bool.false_eq_true, if_false, check,
      checkColumn, Action.liftM_bind_run, hp]
    cases requireText objects .columnKey g.propertyKey with
    | error e => rfl
    | ok key => cases requireText objects .columnName g.name with
      | error e => rfl
      | ok name =>
        simp only [ok_bind]
        cases hc : clash? (r.pendingColumnsOf objects k) key name entity with
        | some e => rfl
        | none => rfl

theorem registerRelation_run (hk : entity.key objects = .ok k) (g : RelationGiven) (r : Registry) :
    registerRelation objects entity g r =
      let v := verdict ⟨objects, entity, .relation g⟩ (r.entry objects k)
      ⟨v.result, v.addition?.elim r (r.add objects k entity), v.log⟩ := by
  unfold registerRelation
  rw [Action.liftM_fault_bind_run, hk]
  dsimp only
  rw [Action.get_bind_run, Action.ite_run, contains_eq]
  cases ht : (r.entry objects k).table? with
  | some t =>
    simp only [verdict, ht, Option.isSome_some, if_true, announced_addition?]
    exact announced_run ⟨objects, entity, .relation g⟩ none _ r
  | none =>
    have hp : (r.entry objects k).relations = r.pendingRelationsOf objects k := rfl
    simp only [verdict, ht, Option.isSome_none, Bool.false_eq_true, if_false, check,
      checkRelation, Action.liftM_bind_run, hp]
    cases RelationKind.given objects g.kind with
    | error e => rfl
    | ok kind => cases requireText objects .relationKey g.propertyKey with
      | error e => rfl
      | ok key => cases requireText objects .selfReference g.selfReference with
        | error e => rfl
        | ok selfReference => cases requireText objects .targetTable g.targetTable with
          | error e => rfl
          | ok targetTable => cases requireText objects .targetColumn g.targetColumn with
            | error e => rfl
            | ok targetColumn => cases g.target.check objects with
              | error e => rfl
              | ok target =>
                simp only [ok_bind, Action.ite_run]
                split <;> rfl

theorem registerTable_run (hk : entity.key objects = .ok k) (name : Value) (r : Registry) :
    registerTable objects entity name r =
      let v := verdict ⟨objects, entity, .table name⟩ (r.entry objects k)
      ⟨v.result, v.addition?.elim r (r.add objects k entity), v.log⟩ := by
  unfold registerTable
  rw [Action.liftM_fault_bind_run, hk]
  dsimp only
  rw [Action.get_bind_run, Action.ite_run, contains_eq]
  cases ht : (r.entry objects k).table? with
  | some t =>
    simp only [verdict, ht, Option.isSome_some, if_true, announced_addition?]
    exact announced_run ⟨objects, entity, .table name⟩ none _ r
  | none =>
    have hc : (r.entry objects k).columns = r.pendingColumnsOf objects k := rfl
    simp only [verdict, ht, Option.isSome_none, Bool.false_eq_true, if_false, check, checkTable,
      Action.liftM_bind_run, hc]
    cases requireText objects .tableName name with
    | error e => rfl
    | ok text =>
      simp only [ok_bind, Action.ite_run]
      split
      · rfl
      · let t : Table :=
          ⟨entity, text, r.pendingColumnsOf objects k, r.pendingRelationsOf objects k⟩
        let x : Registration := ⟨objects, entity, .table name⟩
        let notice (label : Value) : Notice :=
          .tableRegistered text label t.columns.length t.relations.length
        show _ = (⟨(x.announced (some (.table t)) notice).result,
          (x.announced (some (.table t)) notice).addition?.elim r (r.add objects k entity),
          (x.announced (some (.table t)) notice).log⟩ : Outcome Registry Unit)
        rw [announced_addition?, Action.set_bind_run]
        exact announced_run x (some (.table t)) notice _

/-- A registration is its verdict on the entry of its entity. -/
theorem run_eq (x : Registration) (r : Registry) :
    x.run r = match x.entity.key x.objects with
      | .error f => ⟨.error (.fault f), r, []⟩
      | .ok k =>
        let v := x.verdict (r.entry x.objects k)
        ⟨v.result, v.addition?.elim r (r.add x.objects k x.entity), v.log⟩ := by
  obtain ⟨objects, entity, request⟩ := x
  cases hk : entity.key objects with
  | error f => cases request <;>
      simp [run, registerColumn, registerRelation, registerTable, Action.liftM_fault_bind_run, hk]
  | ok k => cases request with
    | column g => exact registerColumn_run hk g r
    | relation g => exact registerRelation_run hk g r
    | table name => exact registerTable_run hk name r

/-- Only an entry without a table is added to, and only what its check gives. -/
theorem addition?_eq_some {x : Registration} {e : Entry} {a : Addition} :
    (x.verdict e).addition? = some a ↔ e.table? = none ∧ x.check e = .ok a := by
  unfold verdict
  cases e.table? with
  | some t => simp [announced_addition?]
  | none =>
    rcases x.check e with err | ⟨c | l | t⟩
    · simp
    · simp
    · simp
    · simp [announced_addition?]

theorem result_eq_ok {x : Registration} {label : Value}
    (hx : x.entity.entityName x.objects = .ok label) {e : Entry} :
    (x.verdict e).result = .ok () ↔ e.table?.isSome ∨ ∃ a, x.check e = .ok a := by
  unfold verdict announced
  rw [hx]
  cases e.table? with
  | some t => simp
  | none => rcases x.check e with err | ⟨c | l | t⟩ <;> simp

theorem of_result_eq_ok {x : Registration} {e : Entry} (h : (x.verdict e).result = .ok ()) :
    e.table?.isSome ∨ ∃ a, x.check e = .ok a := by
  unfold verdict at h
  cases ht : e.table? with
  | some t => exact .inl rfl
  | none =>
    cases hc : x.check e with
    | error err => simp [ht, hc] at h
    | ok a => exact .inr ⟨a, rfl⟩

/-- A registration that is ignored shows the name of its entity. -/
theorem exists_entityName_of_ok {x : Registration} {e : Entry} (ht : e.table?.isSome)
    (h : (x.verdict e).result = .ok ()) : ∃ label, x.entity.entityName x.objects = .ok label := by
  obtain ⟨t, ht⟩ := Option.isSome_iff_exists.mp ht
  rw [verdict, ht] at h
  unfold announced at h
  cases hn : x.entity.entityName x.objects with
  | ok label => exact ⟨label, rfl⟩
  | error f => simp [hn] at h

/-- A registration changes the entry of its entity alone. -/
theorem entry_run {x : Registration} {k : Key} (hk : x.entity.key x.objects = .ok k) (r : Registry)
    (j : Key) : (x.run r).state.entry x.objects j =
      if k = j then (r.entry x.objects k).after x else r.entry x.objects j := by
  rw [run_eq, hk]
  dsimp only
  unfold Entry.after
  cases (x.verdict (r.entry x.objects k)).addition? with
  | none => split <;> simp_all
  | some a => exact entry_add hk r a j

theorem result_run {x : Registration} {k : Key} (hk : x.entity.key x.objects = .ok k)
    (r : Registry) : (x.run r).result = (x.verdict (r.entry x.objects k)).result := by
  rw [run_eq, hk]

theorem state_run {x : Registration} {k : Key} (hk : x.entity.key x.objects = .ok k)
    (r : Registry) : (x.run r).state =
      (x.verdict (r.entry x.objects k)).addition?.elim r (r.add x.objects k x.entity) := by
  rw [run_eq, hk]

theorem run_of_unhashable {x : Registration} {f : Fault} (hk : x.entity.key x.objects = .error f)
    (r : Registry) : x.run r = ⟨.error (.fault f), r, []⟩ := by
  rw [run_eq, hk]

theorem state_cases (x : Registration) (r : Registry) :
    (x.run r).state = r ∨ ∃ k a, x.entity.key x.objects = .ok k ∧
      r.tableAt? x.objects k = none ∧ x.check (r.entry x.objects k) = .ok a ∧
      (x.run r).state = r.add x.objects k x.entity a := by
  cases hk : x.entity.key x.objects with
  | error f => exact .inl (by rw [run_of_unhashable hk])
  | ok k =>
    rw [state_run hk]
    cases ha : (x.verdict (r.entry x.objects k)).addition? with
    | none => exact .inl rfl
    | some a =>
      obtain ⟨ht, hc⟩ := addition?_eq_some.mp ha
      exact .inr ⟨k, a, rfl, ht, hc, rfl⟩

end Registration

end RecordSql
