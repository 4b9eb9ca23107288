import RecordSql.Proofs.Registry.Refusals
import RecordSql.Proofs.Statement.Parts
import RecordSql.Proofs.Statement.Placeholders

/-! Strict conditions. A strict build and a lenient one of the same statement are one build, until a
condition is doubtful: there the lenient one warns and goes on, and the strict one is refused. -/

namespace RecordSql

open RecordSql.Action

/-- Whether a warning is among some reports. -/
def Warns (log : List Notice) : Prop := ∃ n ∈ log, n.level = .warning

theorem not_warns_nil : ¬Warns [] := fun ⟨_, h, _⟩ => nomatch h

theorem warns_append {l m : List Notice} : Warns (l ++ m) ↔ Warns l ∨ Warns m := by
  simp only [Warns, List.mem_append, or_and_right, exists_or]

theorem warns_singleton {n : Notice} : Warns [n] ↔ n.level = .warning := by
  simp only [Warns, List.mem_singleton, exists_eq_left]

/-- The first warning among some reports. -/
def warning? (log : List Notice) : Option Notice := log.find? (·.level = .warning)

theorem warning?_append (l m : List Notice) : warning? (l ++ m) = (warning? l).or (warning? m) :=
  List.find?_append

theorem warning?_singleton {n : Notice} (h : n.level = .warning) : warning? [n] = some n :=
  List.find?_cons_of_pos (decide_eq_true h)

theorem warning?_eq_none {log : List Notice} : warning? log = none ↔ ¬Warns log := by
  simp [warning?, Warns]

theorem warns_of_warning? {log : List Notice} {n : Notice} (h : warning? log = some n) :
    Warns log := by
  by_contra hw
  rw [warning?_eq_none.mpr hw] at h
  cases h

/-! ### The warnings of the library

A handler of the caller may report what it likes. What the library itself reports is what is
reported with handlers that are muted. -/

/-- A handler whose reports are not heard. -/
def Handler.muted (h : Handler) : Handler := fun objects reference operand bind feeds =>
  { h objects reference operand bind feeds with log := [] }

/-- A handler that never warns. -/
def Handler.Quiet (h : Handler) : Prop :=
  ∀ objects reference operand bind feeds, ¬Warns (h objects reference operand bind feeds).log

namespace Operators

def muted (ops : Operators) : Operators := ops.map fun e => (e.1, e.2.muted)

def Quiet (ops : Operators) : Prop := ∀ e ∈ ops, e.2.Quiet

theorem find?_muted (ops : Operators) (token : Value) :
    ops.muted.find? token = (ops.find? token).map Handler.muted := by
  have hget (s : String) : Assoc.get? ops.muted s = (Assoc.get? ops s).map Handler.muted := by
    induction ops with
    | nil => rfl
    | cons e ops ih =>
      rw [muted, List.map_cons, Assoc.get?, Assoc.get?]
      split
      · rfl
      · exact ih
  rw [find?, find?]
  cases token.text? with
  | none => rfl
  | some s => exact hget s

theorem handler_muted (objects : Objects) (ops : Operators) (token : Value) :
    ops.muted.handler objects token = (ops.handler objects token).map Handler.muted := by
  rw [handler, handler, find?_muted]
  cases (token.key objects).mapError Error.fault with
  | error e => rfl
  | ok k => cases ops.find? token <;> rfl

end Operators

/-! #### The built-in handlers -/

namespace Handler

theorem quiet_of_silent {h : Handler}
    (hs : ∀ objects reference operand bind, Silent (h objects reference operand bind)) : h.Quiet :=
  fun objects reference operand bind feeds =>
    hs objects reference operand bind feeds ▸ not_warns_nil

theorem quiet_comparison (symbol : String) : (comparison symbol).Quiet :=
  quiet_of_silent fun _ _ _ _ => .bind (.lifted _) fun _ => .pure _

theorem quiet_like : like.Quiet := quiet_of_silent fun _ _ _ _ => .pure _

theorem quiet_null : null.Quiet :=
  quiet_of_silent fun _ _ _ _ => .bind (.liftedFault _) fun _ => .pure _

theorem quiet_member : member.Quiet := by
  refine quiet_of_silent fun objects reference operand bind => ?_
  unfold member
  split
  · exact .fail _
  · exact .fail _
  · refine .bind (.liftedFault _) fun _ => .bind (.liftedFault _) fun isIterable => ?_
    split
    · refine .bind (.elements objects operand) fun items => ?_
      split
      · exact .pure _
      · exact .bind (.lifted _) fun _ => .pure _
    · exact .fail _

end Handler

theorem Operators.quiet_builtin : builtin.Quiet := by
  simp only [Quiet, builtin, List.forall_mem_cons, Handler.quiet_comparison, Handler.quiet_like,
    Handler.quiet_null, Handler.quiet_member]
  simp

def Context.muted (ctx : Context) : Context := { ctx with operators := ctx.operators.muted }

/-! ### Runs that refuse what others warn of -/

/-- How a strict run goes together with a lenient one, of which the library's own reports are known:
it is the same unless the library warns, and then it is refused for what the first warning is about.
If `heard`, there are no other warnings. -/
structure Outcome.Sharpens {σ α : Type} (heard : Prop) (refuses : Notice → Error → Prop)
    (own lenient strict : Outcome σ α) : Prop where
  result : own.result = lenient.result
  state : own.state = lenient.state
  log : own.log.Sublist lenient.log
  same : ¬Warns own.log → strict = lenient
  refused : ∀ n, warning? own.log = some n → ∃ e, strict.result = .error e ∧ refuses n e
  warned : heard → warning? lenient.log = warning? own.log

def Action.Sharpens {σ α : Type} (heard : Prop) (refuses : Notice → Error → Prop)
    (own lenient strict : Action σ α) : Prop :=
  ∀ s, (own s).Sharpens heard refuses (lenient s) (strict s)

namespace Action.Sharpens

variable {σ α β : Type} {heard : Prop} {refuses : Notice → Error → Prop} {x y z : Action σ α}

/-- An action that never warns. -/
theorem calm (h : ∀ s, ¬Warns (x s).log) : Sharpens heard refuses x x x := fun s =>
  ⟨rfl, rfl, List.Sublist.refl _, fun _ => rfl, fun _ hn => absurd (warns_of_warning? hn) (h s),
    fun _ => rfl⟩

theorem silent (h : Silent x) : Sharpens heard refuses x x x :=
  calm fun s => h s ▸ not_warns_nil

theorem pure (a : α) : Sharpens heard refuses (Pure.pure a : Action σ α) (Pure.pure a)
    (Pure.pure a) := silent fun _ => rfl

theorem lifted (e : Except Error α) :
    Sharpens heard refuses (liftM e : Action σ α) (liftM e) (liftM e) := silent fun _ => rfl

theorem fail (e : Error) : Sharpens heard refuses (Action.fail e : Action σ α) (Action.fail e)
    (Action.fail e) := silent fun _ => rfl

theorem report {n : Notice} (h : n.level ≠ .warning) :
    Sharpens heard refuses (Action.report n : Action σ Unit) (Action.report n) (Action.report n) :=
  calm fun _ => fun hw => h (warns_singleton.mp hw)

theorem bind {f g k : α → Action σ β} (hx : Sharpens heard refuses x y z)
    (hf : ∀ a, (∃ s, (y s).result = .ok a) → Sharpens heard refuses (f a) (g a) (k a)) :
    Sharpens heard refuses (x >>= f) (y >>= g) (z >>= k) := by
  intro s
  have hrest (a : α) (ha : (y s).result = .ok a) := hf a ⟨s, ha⟩ (y s).state
  have hfirst := hx s
  rw [bind_run, bind_run, bind_run]
  generalize x s = own at hfirst ⊢
  generalize y s = lenient at hfirst hrest ⊢
  generalize z s = strict at hfirst ⊢
  obtain ⟨r, t, l⟩ := own
  obtain ⟨r', t', l'⟩ := lenient
  obtain ⟨rfl, rfl, hlog, hsame, hrefused, hwarned⟩ := hfirst
  cases hl : warning? l with
  | some n =>
    obtain ⟨e, he, hrefuses⟩ := hrefused n hl
    have hw := warns_of_warning? hl
    obtain ⟨_, u, m⟩ := strict
    cases he
    cases r with
    | error e' =>
      refine ⟨rfl, rfl, hlog, fun hnot => absurd hw hnot, fun n' hn => ⟨e, rfl, ?_⟩, hwarned⟩
      obtain rfl := Option.some.inj (hl.symm.trans hn)
      exact hrefuses
    | ok a =>
      have h := hrest a rfl
      refine ⟨h.result, h.state, hlog.append h.log,
        fun hnot => absurd (warns_append.mpr (.inl hw)) hnot, fun n' hn => ⟨e, rfl, ?_⟩,
        fun hh => ?_⟩
      · rw [warning?_append, hl] at hn
        obtain rfl := Option.some.inj hn
        exact hrefuses
      · rw [warning?_append, warning?_append, hwarned hh, hl]
        rfl
  | none =>
    obtain rfl := hsame (warning?_eq_none.mp hl)
    cases r with
    | error e =>
      exact ⟨rfl, rfl, hlog, fun _ => rfl, fun n hn => absurd (hl.symm.trans hn) nofun, hwarned⟩
    | ok a =>
      have h := hrest a rfl
      have hown : warning? (l ++ (f a t).log) = warning? (f a t).log := by
        rw [warning?_append, hl]
        rfl
      refine ⟨h.result, h.state, hlog.append h.log,
        fun hnot => ?_, fun n hn => h.refused n (hown ▸ hn), fun hh => ?_⟩
      · simp only [h.same fun hw => hnot (warns_append.mpr (.inr hw))]
      · rw [hown, warning?_append, hwarned hh, hl, h.warned hh]
        rfl

theorem lifted_bind {e : Except Error α} {f g k : α → Action σ β}
    (hf : ∀ a, e = .ok a → Sharpens heard refuses (f a) (g a) (k a)) :
    Sharpens heard refuses (liftM e >>= f) (liftM e >>= g) (liftM e >>= k) :=
  bind (lifted e) fun a ⟨_, ha⟩ => hf a ha

theorem liftedFault_bind {e : Except Fault α} {f g k : α → Action σ β}
    (hf : ∀ a, e = .ok a → Sharpens heard refuses (f a) (g a) (k a)) :
    Sharpens heard refuses (liftM e >>= f) (liftM e >>= g) (liftM e >>= k) :=
  lifted_bind (e := e.mapError .fault) fun a ha => hf a (mapError_eq_ok.mp ha)

theorem imp {refuses' : Notice → Error → Prop} (h : Sharpens heard refuses x y z)
    (himp : ∀ n e, refuses n e → refuses' n e) : Sharpens heard refuses' x y z := fun s =>
  { h s with refused := fun n hn => ((h s).refused n hn).imp fun e => And.imp_right (himp n e) }

theorem mapM {f g k : β → Action σ α} {l : List β}
    (h : ∀ b ∈ l, Sharpens heard refuses (f b) (g b) (k b)) :
    Sharpens heard refuses (l.mapM f) (l.mapM g) (l.mapM k) := by
  induction l with
  | nil => exact pure _
  | cons b l ih =>
    rw [List.mapM_cons, List.mapM_cons, List.mapM_cons]
    refine bind (h b List.mem_cons_self) fun _ _ => ?_
    exact bind (ih fun b' hb => h b' (List.mem_cons_of_mem b hb)) fun _ _ => pure _

/-- A doubt that the strict action refuses and that the other ones report. -/
theorem doubt {e : Error} {n : Notice} (he : refuses n e) (hn : n.level = .warning) (a : α) :
    Sharpens heard refuses (Action.report n >>= fun _ => Pure.pure a : Action σ α)
      (Action.report n >>= fun _ => Pure.pure a) (Action.fail e) := fun _ => by
  refine ⟨rfl, rfl, List.Sublist.refl _, fun h => absurd (warns_singleton.mpr hn) h,
    fun n' hn' => ⟨e, rfl, ?_⟩, fun _ => rfl⟩
  obtain rfl := Option.some.inj ((warning?_singleton hn).symm.trans hn')
  exact he

end Action.Sharpens

/-! ### Conditions -/

namespace Error

/-- The warnings of a doubtful condition, and the refusals in their place. They are told by its
key. -/
inductive Doubts (key : Value) : Notice → Error → Prop
  | unknown (table : String) : Doubts key (.verbatimKey key table) (.unknownColumn key table)
  | several (tokens : List String) :
      Doubts key (.severalOperators key tokens) (.severalOperators key tokens)

variable {key : Value} {n : Notice} {e : Error}

theorem Doubts.family (h : Doubts key n e) : e.family = .validation := by
  cases h <;> rfl

/-- Such a refusal shows the key, and gives way to the fault of a key that cannot be written. -/
theorem Doubts.settled (h : Doubts key n e) (objects : Objects) :
    e.settled objects = match key.written objects with
      | .ok _ => e
      | .error f => .fault f := by
  cases h with
  | unknown table =>
    rw [Error.settled, message]
    cases key.written objects <;> rfl
  | several tokens =>
    rw [Error.settled, message]
    cases key.written objects with
    | ok text =>
      rw [Value.shown_texts_ok]
      rfl
    | error f => rfl

end Error

namespace Where

variable {heard : Prop} {objects : Objects} {handler handler' : Value → Except Error Handler}

theorem sharpens_columnFor (t : Table) (key : Value) :
    Action.Sharpens heard (Error.Doubts key) (columnFor objects ⟨.ok false, handler'⟩ t key)
      (columnFor objects ⟨.ok false, handler⟩ t key)
      (columnFor objects ⟨.ok true, handler⟩ t key) := by
  refine .liftedFault_bind fun column _ => ?_
  cases column with
  | some c => exact .pure _
  | none => exact .doubt (.unknown t.name) rfl none

end Where

theorem Condition.sharpens_ofValue {heard : Prop} {objects : Objects} (key v : Value) :
    Action.Sharpens heard (Error.Doubts key) (ofValue objects (.ok false) key v)
      (ofValue objects (.ok false) key v) (ofValue objects (.ok true) key v) := by
  cases v with
  | literal v => exact .pure _
  | operator token operand => exact .pure _
  | dict es serial =>
    refine .liftedFault_bind fun entries _ => ?_
    rcases entries with _ | ⟨⟨token, operand⟩, _ | ⟨other, others⟩⟩
    · exact .pure _
    · exact .pure _
    · exact .doubt (.several _) rfl _
  | _ => exact .silent (.bind (.liftedFault _) fun _ => .bind (.liftedFault _) fun _ => .pure _)

namespace Where

variable {ctx : Context} {config : Config} {t : Table}

/-- A handler and the same one muted, where a strict and a lenient run are the same. -/
theorem sharpens_handler {refuses : Notice → Error → Prop} {token : Value} {handle : Handler}
    (hh : ctx.operators.handler ctx.objects token = .ok handle) (reference : String)
    (operand : Value) (bind : Binding) :
    Action.Sharpens ctx.operators.Quiet refuses
      (handle.muted ctx.objects reference operand bind) (handle ctx.objects reference operand bind)
      (handle ctx.objects reference operand bind) := by
  obtain ⟨s, -, hs⟩ := Operators.handler_eq_ok hh
  refine fun feeds => ⟨rfl, rfl, List.nil_sublist _, fun _ => rfl, nofun, fun hquiet => ?_⟩
  exact warning?_eq_none.mpr (hquiet _ (Assoc.mem_of_get? hs) _ _ _ _ feeds)

theorem sharpens_fragment (lead : String) (entry : Value × Value) :
    Action.Sharpens ctx.operators.Quiet (Error.Doubts entry.1)
      (fragment ctx.objects ⟨.ok false, ctx.operators.muted.handler ctx.objects⟩ t lead entry)
      (fragment ctx.objects ⟨.ok false, ctx.operators.handler ctx.objects⟩ t lead entry)
      (fragment ctx.objects ⟨.ok true, ctx.operators.handler ctx.objects⟩ t lead entry) := by
  refine .bind (sharpens_columnFor t entry.1) fun column _ => ?_
  refine .bind (Condition.sharpens_ofValue entry.1 entry.2) fun condition _ => ?_
  refine .liftedFault_bind fun name _ => ?_
  cases condition with
  | literal v => exact .lifted_bind fun _ _ => .pure _
  | operator token operand =>
    dsimp only
    rw [Operators.handler_muted]
    cases hh : ctx.operators.handler ctx.objects token with
    | error e => exact .fail e
    | ok handle => exact sharpens_handler hh _ operand _

/-- What a condition value makes of a reference to a column. -/
inductive Predicate (ctx : Context) (reference : String) (bind : Binding) (v : Value) :
    Fragment → Prop
  | literal {tokens : List String} {w p : Value}
      (hv : Condition.chosen ctx.objects v = .ok (tokens, .literal w)) (hp : bind w = .ok p) :
      Predicate ctx reference bind v ⟨reference ++ " = ?", [p]⟩
  | operator {tokens : List String} {token operand : Value} {handle : Handler} {feeds : Feeds}
      {f : Fragment} (hv : Condition.chosen ctx.objects v = .ok (tokens, .operator token operand))
      (hh : ctx.operators.handler ctx.objects token = .ok handle)
      (hf : (handle ctx.objects reference operand bind feeds).result = .ok f) :
      Predicate ctx reference bind v f

/-- The predicate of an entry whose key is that of a column, on the name of the column. -/
def Registered (ctx : Context) (t : Table) (lead : String) (entry : Value × Value) (f : Fragment) :
    Prop :=
  ∃ c ∈ t.columns, entry.1 = .text c.propertyKey ∧
    t.column? ctx.objects entry.1 = .ok (some c) ∧
    Predicate ctx (lead ++ c.name) (Column.stored ctx.objects (some c)) entry.2 f

/-- A strict run has looked up the column of the key. -/
theorem registered_of_fragment {lead : String} {entry : Value × Value} {feeds : Feeds}
    {f : Fragment}
    (h : (fragment ctx.objects ⟨.ok true, ctx.operators.handler ctx.objects⟩ t lead entry
      feeds).result = .ok f) : Registered ctx t lead entry f := by
  obtain ⟨column, hcolumn, h⟩ := bind_result_eq_ok.mp h
  obtain ⟨condition, hc, h⟩ := bind_result_eq_ok.mp h
  obtain ⟨tokens, hchosen, -⟩ := (Condition.reports_ofValue _ _ _ _ _).2 _ hc
  obtain ⟨column', hsought, hcolumn⟩ := bind_result_eq_ok.mp hcolumn
  have hsought := mapError_eq_ok.mp hsought
  cases column' with
  | none => cases hcolumn
  | some c =>
    cases hcolumn
    obtain ⟨name, hname, h⟩ := bind_result_eq_ok.mp h
    cases hname
    have hfind := (Value.sought_eq_ok hsought).symm
    have hkey : entry.1.text? = some c.propertyKey := by simpa using List.find?_some hfind
    refine ⟨c, List.mem_of_find?_eq_some hfind, ?_, hsought, ?_⟩
    · cases hk : entry.1 with
      | text s => rw [hk] at hkey; cases hkey; rfl
      | _ => rw [hk] at hkey; cases hkey
    · cases condition with
      | literal v =>
        obtain ⟨p, hp, h⟩ := bind_result_eq_ok.mp h
        cases h
        exact .literal hchosen hp
      | operator token operand =>
        obtain ⟨handle, hh, h⟩ := bind_result_eq_ok.mp h
        exact .operator hchosen hh h

/-- The refusal of one of the keys of some conditions in the place of a warning of it: a validation
error, which reaches the caller as it is if the key can be written, and gives way to the fault of
writing it otherwise. -/
def Refuses (objects : Objects) (conditions : Value) (n : Notice) (e : Error) : Prop :=
  ∃ entries, conditions.mapping objects = .ok entries ∧ ∃ entry ∈ entries,
    Error.Doubts entry.1 n e ∧ e.family = .validation ∧
      e.settled objects = match entry.1.written objects with
        | .ok _ => e
        | .error f => .fault f

theorem sharpens_compileBy (conditions : Value) (mode : Except Error AliasMode)
    (tableAlias : Value) :
    Action.Sharpens ctx.operators.Quiet (Refuses ctx.objects conditions)
      (compileBy ctx.objects ⟨.ok false, ctx.operators.muted.handler ctx.objects⟩ t conditions mode
        tableAlias)
      (compileBy ctx.objects ⟨.ok false, ctx.operators.handler ctx.objects⟩ t conditions mode
        tableAlias)
      (compileBy ctx.objects ⟨.ok true, ctx.operators.handler ctx.objects⟩ t conditions mode
        tableAlias) := by
  refine .liftedFault_bind fun isTrue _ => ?_
  cases isTrue with
  | false => exact .pure _
  | true =>
    refine .lifted_bind fun mode _ => .liftedFault_bind fun lead _ => ?_
    refine .liftedFault_bind fun entries hentries => ?_
    refine .bind (.mapM fun entry he => (sharpens_fragment lead entry).imp ?_) fun _ _ => .pure _
    exact fun n e h => ⟨entries, hentries, entry, he, h, h.family, h.settled ctx.objects⟩

/-- The predicate of a strict compile is made of the predicates of its entries, all of them on
columns of the table; there is none if the conditions do not count as true. -/
theorem registered_of_compileBy {conditions : Value} {mode : Except Error AliasMode}
    {tableAlias : Value} {feeds : Feeds} {st : Statement}
    (h : (compileBy ctx.objects ⟨.ok true, ctx.operators.handler ctx.objects⟩ t conditions mode
      tableAlias feeds).result = .ok st) :
    conditions.truthy = false ∧ st = .empty ∨
      ∃ entries m lead fs, conditions.mapping ctx.objects = .ok entries ∧ mode = .ok m ∧
        qualifier ctx.objects m t tableAlias = .ok lead ∧ st = joined fs ∧
        List.Forall₂ (Registered ctx t lead) entries fs := by
  obtain ⟨isTrue, htrue, h⟩ := bind_result_eq_ok.mp h
  have htrue := Value.truth_eq_ok (mapError_eq_ok.mp htrue)
  cases isTrue with
  | false =>
    cases h
    exact .inl ⟨htrue.symm, rfl⟩
  | true =>
    obtain ⟨m, hm, h⟩ := bind_result_eq_ok.mp h
    obtain ⟨lead, hlead, h⟩ := bind_result_eq_ok.mp h
    obtain ⟨entries, hentries, h⟩ := bind_result_eq_ok.mp h
    obtain ⟨fs, hfs, h⟩ := bind_result_eq_ok.mp h
    cases h
    refine .inr
      ⟨entries, m, lead, fs, mapError_eq_ok.mp hentries, hm, mapError_eq_ok.mp hlead, rfl, ?_⟩
    exact (mapM_runs hfs).imp fun _ _ ⟨_, hf⟩ => registered_of_fragment hf

end Where

/-! ### Statements -/

def Config.withStrict (config : Config) (strict : Bool) : Config := { config with strict }

namespace Builder

/-- The same statement with strict conditions, or with lenient ones. -/
def withStrict (strict : Bool) : Builder → Builder
  | .select s => .select { s with config := s.config.withStrict strict }
  | .update u => .update { u with config := u.config.withStrict strict }
  | .delete d => .delete { d with config := d.config.withStrict strict }
  | .insert i => .insert i

/-- The conditions of a statement; an INSERT has none. -/
def conditionSet : Builder → Value
  | .select s => s.conditions
  | .update u => u.conditions
  | .delete d => d.conditions
  | .insert _ => .null

variable {ctx : Context}

theorem sharpens_build (b : Builder) :
    Action.Sharpens ctx.operators.Quiet (Where.Refuses ctx.objects b.conditionSet)
      ((b.withStrict false).build ctx.muted) ((b.withStrict false).build ctx)
      ((b.withStrict true).build ctx) := by
  cases b with
  | select s =>
    refine .lifted_bind fun t _ => .liftedFault_bind fun isGiven _ => ?_
    refine .liftedFault_bind fun tableAlias _ => .lifted_bind fun joins _ => ?_
    refine .bind (Where.sharpens_compileBy _ _ _) fun conditions _ => ?_
    refine .liftedFault_bind fun ordering _ => ?_
    exact .bind (.report nofun) fun _ _ => .pure _
  | insert i =>
    rcases i with ⟨entity, _ | _ | ⟨row, rows⟩⟩
    · exact .fail _
    · exact .fail _
    · refine .lifted_bind fun t _ => .liftedFault_bind fun columns _ => ?_
      cases columns with
      | nil => exact .fail _
      | cons c columns => exact .lifted_bind fun _ _ => .bind (.report nofun) fun _ _ => .pure _
  | update u =>
    refine .lifted_bind fun t _ => .bind (.silent (.supplied _ _)) fun keys _ => ?_
    refine .lifted_bind fun assigned _ => ?_
    cases assigned with
    | nil => exact .fail _
    | cons e assigned =>
      refine .bind (Where.sharpens_compileBy _ _ _) fun conditions _ => ?_
      exact .bind (.report nofun) fun _ _ => .pure _
  | delete d =>
    refine .lifted_bind fun t _ => .bind (Where.sharpens_compileBy _ _ _) fun conditions _ => ?_
    exact .bind (.report nofun) fun _ _ => .pure _

/-- Strict conditions are lenient ones whose warnings are errors, in condition sets on their own and
in statements of all kinds: the first warning tells which condition is refused. It is the first one
of the library's own, those of a run with muted handlers, which are all of them unless handlers of
the caller warn. A strict condition set refers to columns of the table only, by their names. -/
theorem strict_sharpens_lenient (ctx : Context) :
    (∀ (config : Config) t conditions mode tableAlias,
      Action.Sharpens ctx.operators.Quiet (Where.Refuses ctx.objects conditions)
        (Where.compileGiven ctx.muted (config.withStrict false) t conditions mode tableAlias)
        (Where.compileGiven ctx (config.withStrict false) t conditions mode tableAlias)
        (Where.compileGiven ctx (config.withStrict true) t conditions mode tableAlias)) ∧
    (∀ b : Builder, Action.Sharpens ctx.operators.Quiet (Where.Refuses ctx.objects b.conditionSet)
      ((b.withStrict false).build ctx.muted) ((b.withStrict false).build ctx)
      ((b.withStrict true).build ctx)) ∧
    Operators.builtin.Quiet ∧
    ∀ (config : Config) t conditions mode tableAlias feeds st,
      (Where.compileGiven ctx (config.withStrict true) t conditions mode tableAlias feeds).result =
        .ok st →
      conditions.truthy = false ∧ st = .empty ∨
        ∃ entries m lead fs, conditions.mapping ctx.objects = .ok entries ∧
          AliasMode.given ctx.objects mode = .ok m ∧
          Where.qualifier ctx.objects m t tableAlias = .ok lead ∧ st = Where.joined fs ∧
          List.Forall₂ (Where.Registered ctx t lead) entries fs :=
  ⟨fun _ _ _ _ _ => Where.sharpens_compileBy _ _ _, sharpens_build, Operators.quiet_builtin,
    fun _ _ _ _ _ _ _ h => Where.registered_of_compileBy h⟩

end Builder

/-! ### A column that is not there -/

/-- Deletes the pets of an age, which is not known of pets. -/
def agedDelete : Builder :=
  .delete ⟨.cls (.plain "Pet"), .usual, .none, .dict [(.text "age", .int 3)]⟩

theorem Builder.strict_sharpens_lenient_agedDelete :
    ((agedDelete.withStrict false).build petContext []).result =
        .ok ⟨"DELETE FROM pets WHERE age = ?", [.int 3]⟩ ∧
      warning? ((agedDelete.withStrict false).build petContext []).log =
        some (.verbatimKey (.text "age") "pets") ∧
      ∃ e, ((agedDelete.withStrict true).build petContext []).result = .error e ∧
        e.family = .validation ∧ e.settled noObjects = e := by
  have hwarning : warning? ((agedDelete.withStrict false).build petContext []).log =
      some (.verbatimKey (.text "age") "pets") := rfl
  obtain ⟨-, hbuild, hquiet, -⟩ := Builder.strict_sharpens_lenient petContext
  have hrun := hbuild agedDelete []
  obtain ⟨e, he, entries, hentries, entry, hentry, hdoubts, hfamily, hsettled⟩ :=
    hrun.refused _ ((hrun.warned hquiet).symm.trans hwarning)
  cases hentries
  cases List.mem_singleton.mp hentry
  exact ⟨rfl, hwarning, e, he, hfamily, hsettled⟩

/-- A doubtful key that cannot be written is warned of, but not refused: the refusal gives way to
the fault of showing the key. -/
theorem Builder.unwritten_key_not_refused :
    let objects := (World.oddWorld ["__str__"]).view
    let ctx : Context := { petContext with objects }
    let b : Builder := .delete ⟨.cls (.plain "Pet"), .usual, .none,
      .dict [(World.oddObject ["__str__"], .int 3)]⟩
    Warns ((b.withStrict false).build ctx []).log ∧
      ∃ e, ((b.withStrict true).build ctx []).result = .error e ∧
        e.settled objects = .fault (.notCallable "int") :=
  ⟨⟨_, .head _, rfl⟩, _, rfl, rfl⟩

end RecordSql
