import Mathlib.Data.List.TakeWhile
import Mathlib.Logic.Function.Iterate
import RecordSql.Proofs.Frame
import RecordSql.Proofs.Statement.Placeholders
import RecordSql.Proofs.Statement.Parts

/-! Repetition: a statement can be built again and again. What a build can use up are the feeds that
a column is looked up among and the one that tells which keys a source supplies; a builder that
holds none of them, or used-up ones only, builds the same statement every time. -/

namespace RecordSql

open RecordSql.Action

/-! ### Steady values -/

/-- A value that can be gone through again: no feed, or one of which nothing is left. -/
def Value.Steady (feeds : Feeds) : Value → Prop
  | .feed i => feeds[i]?.getD [] = []
  | _ => True

/-- An entry whose column is looked up among a steady value, if it is looked up at all. -/
def Where.EntrySteady (objects : Objects) (feeds : Feeds) (entry : Value × Value) : Prop :=
  ∀ tokens operand,
    Condition.chosen objects entry.2 = .ok (tokens, .operator (.text "$in") operand) →
    operand.Steady feeds

def Where.Steady (objects : Objects) (feeds : Feeds) (conditions : Value) : Prop :=
  ∀ entries, conditions.mapping objects = .ok entries → ∀ e ∈ entries, EntrySteady objects feeds e

/-- A source that tells its keys by its own entries or by a steady value. -/
def Source.Steady (objects : Objects) (feeds : Feeds) : Value → Prop
  | .dict .. => True
  | source =>
    ∀ fields, read objects source "model_fields_set" = .ok fields → fields.Steady feeds

/-- A builder that holds steady values in the places where a build goes through them. -/
def Builder.Steady (ctx : Context) (feeds : Feeds) : Builder → Prop
  | .select s => Where.Steady ctx.objects feeds s.conditions
  | .insert _ => True
  | .update u => Source.Steady ctx.objects feeds u.source ∧
      Where.Steady ctx.objects feeds u.conditions
  | .delete d => Where.Steady ctx.objects feeds d.conditions

/-! ### Steady builders -/

section

variable {objects : Objects} {feeds : Feeds}

namespace Value

variable {v : Value}

/-- To use up a feed of which nothing is left changes nothing. -/
theorem set_nil_eq {i : Nat} (h : feeds[i]?.getD [] = []) : feeds.set i [] = feeds := by
  by_cases hi : i < feeds.length
  · rw [List.getElem?_eq_getElem hi, Option.getD_some] at h
    rw [← h, List.set_getElem_self]
  · exact List.set_eq_of_length_le (Nat.le_of_not_lt hi)

theorem rests_elements (h : v.Steady feeds) : Rests (v.elements objects) feeds := by
  cases v with
  | feed i => exact set_nil_eq h
  | _ => rfl

theorem rests_members (h : v.Steady feeds) : Rests (v.members objects) feeds := by
  cases v with
  | feed i =>
    refine .bind (x := Action.get) rfl ?_
    rintro _ ⟨⟩
    refine .bind ?_ fun _ _ => .bind (.liftedFault _) fun _ _ => .pure _
    rw [Rests, Action.modify_run, show feeds[i]?.getD [] = [] from h]
    exact set_nil_eq h
  | _ => exact .bind (rests_elements trivial) fun _ _ => .bind (.liftedFault _) fun _ _ => .pure _

end Value

/-- The handler of any token but one leaves all feeds alone; that one leaves steady operands alone.
-/
def Handler.RestsOn (h : Handler) (token : String) : Prop :=
  ∀ objects reference operand bind feeds, (token = "$in" → Value.Steady feeds operand) →
    Rests (h objects reference operand bind) feeds

namespace Handler

theorem restsOn_comparison (symbol token : String) : (comparison symbol).RestsOn token := by
  intro objects reference operand bind feeds _
  exact .bind (.lifted _) fun _ _ => .pure _

theorem restsOn_like (token : String) : like.RestsOn token := by
  intro objects reference operand bind feeds _
  exact .pure _

theorem restsOn_null (token : String) : null.RestsOn token := by
  intro objects reference operand bind feeds _
  exact .bind (.liftedFault _) fun _ _ => .pure _

theorem restsOn_member : member.RestsOn "$in" := by
  intro objects reference operand bind feeds h
  unfold member
  split
  · exact .fail _
  · exact .fail _
  · refine .bind (.liftedFault _) fun _ _ => .bind (.liftedFault _) fun isIterable _ => ?_
    split
    · refine .bind (Value.rests_elements (h rfl)) fun items _ => ?_
      split
      · exact .pure _
      · exact .bind (.lifted _) fun _ _ => .pure _
    · exact .fail _

end Handler

theorem Operators.restsOn_builtin : ∀ e ∈ builtin, e.2.RestsOn e.1 := by
  simp only [builtin, List.forall_mem_cons, Handler.restsOn_comparison, Handler.restsOn_like,
    Handler.restsOn_null, Handler.restsOn_member]
  simp

end

namespace Where

/-- An entry whose operand can be gone through again: what its handler makes of it leaves the feeds
as they are. -/
def Reiterable (objects : Objects) (r : Reading) (feeds : Feeds) (entry : Value × Value) : Prop :=
  ∀ tokens token operand handle,
    Condition.chosen objects entry.2 = .ok (tokens, .operator token operand) →
    r.handler token = .ok handle →
    ∀ reference bind, Rests (handle objects reference operand bind) feeds

variable {ctx : Context} {config : Config} {t : Table} {feeds : Feeds}

theorem Reiterable.rests_fragment {objects : Objects} {r : Reading} {entry : Value × Value}
    (h : Reiterable objects r feeds entry) (t : Table) (lead : String) :
    Rests (fragment objects r t lead entry) feeds := by
  refine .bind (reports_columnFor _ _ _ _ _).1 fun column _ => ?_
  have hvalue := Condition.reports_ofValue objects r.strict entry.1 entry.2 feeds
  refine .bind hvalue.1 fun condition hc => .bind (.liftedFault _) fun name _ => ?_
  obtain ⟨tokens, hchosen, -⟩ := hvalue.2 condition hc
  cases condition with
  | literal v => exact .bind (.lifted _) fun _ _ => .pure _
  | operator token operand =>
    exact .bind (.lifted _) fun handle hh => h tokens token operand handle hchosen hh _ _

/-- With the built-in operators, steady entries can be gone through again. -/
theorem EntrySteady.reiterable {objects : Objects} {r : Reading} {entry : Value × Value}
    (hr : r.handler = Operators.builtin.handler objects) (h : EntrySteady objects feeds entry) :
    Reiterable objects r feeds entry := by
  intro tokens token operand handle hchosen hh reference bind
  rw [hr] at hh
  obtain ⟨s, rfl, hs⟩ := Operators.handler_eq_ok hh
  refine Operators.restsOn_builtin _ (Assoc.mem_of_get? hs) _ _ _ _ _ ?_
  rintro rfl
  exact h tokens operand hchosen

/-- Conditions that can be gone through again leave the feeds as they are. -/
theorem rests_compileBy {objects : Objects} {r : Reading} {conditions : Value}
    (h : ∀ entries, conditions.mapping objects = .ok entries →
      ∀ entry ∈ entries, Reiterable objects r feeds entry)
    (t : Table) (mode : Except Error AliasMode) (tableAlias : Value) :
    Rests (compileBy objects r t conditions mode tableAlias) feeds := by
  refine .bind (.liftedFault _) fun isTrue _ => ?_
  split
  · exact .pure _
  refine .bind (.lifted _) fun _ _ => .bind (.liftedFault _) fun lead _ => ?_
  refine .bind (.liftedFault _) fun entries he => ?_
  have hentries := h entries (mapError_eq_ok.mp he)
  exact .bind (.mapM fun entry hmem => (hentries entry hmem).rests_fragment t lead) fun _ _ =>
    .pure _

theorem rests_compile (hops : ctx.operators = Operators.builtin) {conditions : Value}
    (h : Steady ctx.objects feeds conditions) (mode : AliasMode) (tableAlias : Value) :
    Rests (compile ctx config t conditions mode tableAlias) feeds :=
  have hr : (reading ctx config).handler = Operators.builtin.handler ctx.objects := by
    rw [← hops]
    rfl
  rests_compileBy (fun entries he entry hmem => (h entries he entry hmem).reiterable hr) t _ _

end Where

namespace Source

/-- The keys that a source tells that is no mapping. -/
def toldKeys (objects : Objects) (source : Value) : Action Feeds (List Value) := do
  match ← read objects source "model_fields_set" with
  | .null => variableKeys objects source
  | fields => fields.members objects

theorem rests_toldKeys {objects : Objects} {feeds : Feeds} {source : Value} (h : ∀ fields,
    read objects source "model_fields_set" = .ok fields → fields.Steady feeds) :
    Rests (toldKeys objects source) feeds := by
  refine .bind (.liftedFault _) fun fields hf => ?_
  have hsteady := h fields (mapError_eq_ok.mp hf)
  split
  · exact .liftedFault _
  · exact Value.rests_members hsteady

end Source

theorem Update.rests_supplied {objects : Objects} {feeds : Feeds} {source : Value}
    (h : Source.Steady objects feeds source) : Rests (supplied objects source) feeds := by
  unfold supplied
  split
  · exact .pure _
  · cases source with
    | dict es => exact .pure _
    | _ => exact Source.rests_toldKeys h

namespace Builder

variable {ctx : Context} {feeds : Feeds}

/-- A build leaves steady feeds as they are, however it ends. -/
theorem rests_build (hops : ctx.operators = Operators.builtin) {b : Builder}
    (hb : b.Steady ctx feeds) : Rests (b.build ctx) feeds := by
  cases b with
  | select s =>
    refine .bind (.lifted _) fun t _ => .bind (.liftedFault _) fun isGiven _ => ?_
    refine .bind (.liftedFault _) fun tableAlias _ => .bind (.lifted _) fun joins _ => ?_
    refine .bind (Where.rests_compile hops hb _ _) fun conditions _ => ?_
    exact .bind (.liftedFault _) fun _ _ => .bind (.report _) fun _ _ => .pure _
  | insert i =>
    rcases i with ⟨entity, _ | _ | ⟨row, rows⟩⟩
    · exact .fail _
    · exact .fail _
    refine .bind (.lifted _) fun t _ => .bind (.liftedFault _) fun columns _ => ?_
    split
    · exact .fail _
    · exact .bind (.lifted _) fun _ _ => .bind (.report _) fun _ _ => .pure _
  | update u =>
    refine .bind (.lifted _) fun t _ => .bind (Update.rests_supplied hb.1) fun keys _ => ?_
    refine .bind (.lifted _) fun assigned _ => ?_
    split
    · exact .fail _
    · refine .bind (Where.rests_compile hops hb.2 _ _) fun conditions _ => ?_
      exact .bind (.report _) fun _ _ => .pure _
  | delete d =>
    refine .bind (.lifted _) fun t _ => ?_
    refine .bind (Where.rests_compile hops hb _ _) fun conditions _ => ?_
    exact .bind (.report _) fun _ _ => .pure _

end Builder

/-! ### Builders that have been built -/

/-- An action that gives nothing back to a feed: what is steady stays so, however it ends. -/
def Action.NeverFills {α : Type} (x : Action Feeds α) : Prop :=
  ∀ (v : Value) feeds, v.Steady feeds → v.Steady (x feeds).state

namespace Action.NeverFills

variable {α β : Type}

theorem of_rests {x : Action Feeds α} (h : ∀ feeds, Rests x feeds) : NeverFills x := by
  intro v feeds hv
  rwa [h feeds]

/-- What an action has left steady is so after what follows it. -/
theorem after {x : Action Feeds α} {f : α → Action Feeds β} {v : Value} {feeds : Feeds}
    (hx : v.Steady (x feeds).state) (hf : ∀ a, NeverFills (f a)) :
    v.Steady ((x >>= f) feeds).state := by
  rw [bind_run]
  rcases hr : x feeds with ⟨_ | a, t, log⟩
  · rwa [hr] at hx
  · rw [hr] at hx
    exact hf a v t hx

theorem bind {x : Action Feeds α} {f : α → Action Feeds β} (hx : NeverFills x)
    (hf : ∀ a, NeverFills (f a)) : NeverFills (x >>= f) :=
  fun v feeds hv => after (hx v feeds hv) hf

theorem mapM {f : α → Action Feeds β} {l : List α} (hf : ∀ a ∈ l, NeverFills (f a)) :
    NeverFills (l.mapM f) := by
  induction l with
  | nil => exact of_rests fun _ => .pure _
  | cons a l ih =>
    rw [List.mapM_cons]
    refine bind (hf a List.mem_cons_self) fun _ => ?_
    refine bind (ih fun a' ha => hf a' (List.mem_cons_of_mem _ ha)) fun _ => ?_
    exact of_rests fun _ => .pure _

theorem liftedFault (r : Except Fault α) : NeverFills (liftM r : Action Feeds α) :=
  of_rests fun _ => .liftedFault r

theorem lifted (r : Except Error α) : NeverFills (liftM r : Action Feeds α) :=
  of_rests fun _ => .lifted r

theorem liftedBind {r : Except Error α} {f : α → Action Feeds β}
    (hf : ∀ a, r = .ok a → NeverFills (f a)) : NeverFills (liftM r >>= f) := by
  intro v feeds hv
  cases r with
  | error e => exact hv
  | ok a => exact hf a rfl v feeds hv

theorem elements (objects : Objects) (v : Value) : NeverFills (v.elements objects) := by
  intro w feeds hw
  cases v with
  | feed i =>
    cases w with
    | feed j =>
      change (feeds.set i [])[j]?.getD [] = []
      rw [List.getElem?_set]
      split
      · split <;> rfl
      · exact hw
    | _ => trivial
  | _ => exact hw

end Action.NeverFills

namespace Value

variable {objects : Objects} {feeds : Feeds} {v : Value}

/-- Of a value that has been gone through nothing is left. -/
theorem steady_elements : v.Steady (v.elements objects feeds).state := by
  cases v with
  | feed i =>
    change (feeds.set i [])[i]?.getD [] = []
    rw [List.getElem?_set_self']
    cases feeds[i]? <;> rfl
  | _ => trivial

/-- Only a dictionary has entries. -/
theorem mapping_eq_ok {es : List (Value × Value)} (h : v.mapping objects = .ok es) :
    ∃ serial, v = .dict es serial := by
  cases v with
  | dict es' serial => exact ⟨serial, by rw [Except.ok.inj h]⟩
  | _ =>
    obtain ⟨_, -, h⟩ := bind_eq_ok.mp h
    cases h

theorem key_of_distinctEntries {es : List (Value × Value)} {m m' : Assoc Key (Value × Value)}
    (h : es.foldlM (fun m e => do putDistinct objects (← e.1.key objects) e m) m = .ok m') :
    ∀ e ∈ es, (e.1.key objects).isOk = true := by
  induction es generalizing m with
  | nil => exact fun _ h => nomatch h
  | cons e es ih =>
    rw [List.foldlM_cons] at h
    obtain ⟨_, hput, h⟩ := bind_eq_ok.mp h
    obtain ⟨k, hk, -⟩ := bind_eq_ok.mp hput
    exact List.forall_mem_cons.mpr ⟨by rw [hk]; rfl, ih h⟩

/-- Values that can be told apart all have keys. -/
theorem key_of_distinct {l l' : List Value} (h : distinct objects l = .ok l') :
    ∀ v ∈ l, (v.key objects).isOk = true := by
  obtain ⟨es, hes, -⟩ := bind_eq_ok.mp h
  obtain ⟨m, hm, -⟩ := bind_eq_ok.mp hes
  exact fun v hv => key_of_distinctEntries hm (v, .null) (List.mem_map_of_mem hv)

theorem steady_members {l : List Value} (h : (v.members objects feeds).result = .ok l) :
    v.Steady (v.members objects feeds).state := by
  cases v with
  | feed i =>
    obtain ⟨_, ⟨⟩, h⟩ := bind_result_eq_ok.mp h
    obtain ⟨_, ⟨⟩, h⟩ := bind_result_eq_ok.mp h
    obtain ⟨items, hitems, h⟩ := bind_result_eq_ok.mp h
    have hkeys := key_of_distinct (mapError_eq_ok.mp hitems)
    have hrest : (feeds[i]?.getD []).dropWhile (fun x => (x.key objects).isOk) = [] :=
      List.dropWhile_eq_nil_iff.mpr hkeys
    have hstate : ((feed i).members objects feeds).state = feeds.set i [] := by
      refine (bind_state (a := feeds) rfl _).trans ((bind_state (a := ()) rfl _).trans ?_)
      refine (bind_state hitems _).trans ?_
      change feeds.set i ((feeds[i]?.getD []).dropWhile fun x => (x.key objects).isOk).tail = _
      rw [hrest]
      rfl
    rw [hstate]
    exact @steady_elements objects feeds (.feed i)
  | _ => trivial

end Value

theorem Operators.eq_member : ∀ e ∈ builtin, e.1 = "$in" → e.2 = Handler.member := by
  simp [builtin]

namespace Handler

theorem neverFills_member (objects : Objects) (reference : String) (operand : Value)
    (bind : Binding) : NeverFills (member objects reference operand bind) := by
  unfold member
  split
  · exact .of_rests fun _ => .fail _
  · exact .of_rests fun _ => .fail _
  · refine .bind (.liftedFault _) fun _ => .bind (.liftedFault _) fun isIterable => ?_
    split
    · refine .bind (.elements objects operand) fun items => .of_rests fun feeds => ?_
      split
      · exact .pure _
      · exact .bind (.lifted _) fun _ _ => .pure _
    · exact .of_rests fun _ => .fail _

theorem neverFills_builtin {e : String × Handler} (he : e ∈ Operators.builtin) (objects : Objects)
    (reference : String) (operand : Value) (bind : Binding) :
    NeverFills (e.2 objects reference operand bind) := by
  by_cases hin : e.1 = "$in"
  · rw [Operators.eq_member e he hin]
    exact neverFills_member objects reference operand bind
  · exact .of_rests fun feeds =>
      Operators.restsOn_builtin e he objects reference operand bind feeds fun h => absurd h hin

/-- An operand that a column has been looked up among is steady. -/
theorem steady_member {objects : Objects} {reference : String} {operand : Value} {bind : Binding}
    {feeds : Feeds} {f : Fragment}
    (h : (member objects reference operand bind feeds).result = .ok f) :
    operand.Steady (member objects reference operand bind feeds).state := by
  cases operand with
  | feed i =>
    simp only [member] at h ⊢
    obtain ⟨_, hkind, h⟩ := bind_result_eq_ok.mp h
    obtain ⟨isIterable, hiterable, h⟩ := bind_result_eq_ok.mp h
    rw [bind_state hkind, bind_state hiterable]
    cases isIterable with
    | false => cases h
    | true =>
      refine NeverFills.after Value.steady_elements fun items => .of_rests fun feeds => ?_
      split
      · exact .pure _
      · exact .bind (.lifted _) fun _ _ => .pure _
  | _ => trivial

end Handler

namespace Where

variable {ctx : Context} {config : Config} {t : Table} {feeds : Feeds}

theorem neverFills_fragment (hops : ctx.operators = Operators.builtin) (lead : String)
    (entry : Value × Value) :
    NeverFills (fragment ctx.objects (reading ctx config) t lead entry) := by
  refine .bind (.of_rests fun feeds => (reports_columnFor _ _ _ _ feeds).1) fun column => ?_
  refine .bind (.of_rests fun feeds => (Condition.reports_ofValue _ _ _ _ feeds).1) ?_
  intro condition
  refine .bind (.liftedFault _) fun name => ?_
  cases condition with
  | literal v => exact .of_rests fun _ => .bind (.lifted _) fun _ _ => .pure _
  | operator token operand =>
    refine .liftedBind fun handle hh => ?_
    change ctx.operators.handler ctx.objects token = _ at hh
    rw [hops] at hh
    obtain ⟨s, -, hs⟩ := Operators.handler_eq_ok hh
    exact Handler.neverFills_builtin (Assoc.mem_of_get? hs) _ _ _ _

theorem neverFills_compile (hops : ctx.operators = Operators.builtin) (conditions : Value)
    (mode : AliasMode) (tableAlias : Value) :
    NeverFills (compile ctx config t conditions mode tableAlias) := by
  refine .bind (.liftedFault _) fun isTrue => ?_
  split
  · exact .of_rests fun _ => .pure _
  refine .bind (.lifted _) fun _ => .bind (.liftedFault _) fun lead => .bind (.liftedFault _) ?_
  exact fun entries => .bind (.mapM fun entry _ => neverFills_fragment hops lead entry) fun _ =>
    .of_rests fun _ => .pure _

/-- The entry of a condition that has been made is steady. -/
theorem steady_fragment (hops : ctx.operators = Operators.builtin) {lead : String}
    {entry : Value × Value} {f : Fragment}
    (h : (fragment ctx.objects (reading ctx config) t lead entry feeds).result = .ok f) :
    EntrySteady ctx.objects (fragment ctx.objects (reading ctx config) t lead entry feeds).state
      entry := by
  intro tokens operand hchosen
  obtain ⟨column, hcolumn, h⟩ := bind_result_eq_ok.mp h
  obtain ⟨condition, hcondition, h⟩ := bind_result_eq_ok.mp h
  obtain ⟨name, hname, h⟩ := bind_result_eq_ok.mp h
  obtain ⟨tokens', hchosen', -⟩ := (Condition.reports_ofValue _ _ _ _ _).2 _ hcondition
  rw [hchosen] at hchosen'
  cases hchosen'
  obtain ⟨handle, hh, h⟩ := bind_result_eq_ok.mp h
  rw [fragment, bind_state hcolumn, bind_state hcondition, bind_state hname]
  dsimp only
  rw [bind_state hh]
  change ctx.operators.handler ctx.objects (.text "$in") = _ at hh
  rw [hops] at hh
  cases hh
  exact Handler.steady_member h

theorem EntrySteady.after {α : Type} {x : Action Feeds α} (hx : NeverFills x) {objects : Objects}
    {entry : Value × Value} (h : EntrySteady objects feeds entry) :
    EntrySteady objects (x feeds).state entry :=
  fun tokens operand hc => hx operand feeds (h tokens operand hc)

theorem steady_fragments (hops : ctx.operators = Operators.builtin) {lead : String}
    {entries : List (Value × Value)} {fs : List Fragment}
    (h : (entries.mapM (fragment ctx.objects (reading ctx config) t lead) feeds).result = .ok fs) :
    ∀ e ∈ entries, EntrySteady ctx.objects
      (entries.mapM (fragment ctx.objects (reading ctx config) t lead) feeds).state e := by
  induction entries generalizing feeds fs with
  | nil => exact fun _ h => nomatch h
  | cons e entries ih =>
    rw [List.mapM_cons] at h ⊢
    obtain ⟨f, hf, h⟩ := bind_result_eq_ok.mp h
    obtain ⟨fs, hfs, -⟩ := bind_result_eq_ok.mp h
    rw [bind_state hf, bind_state hfs]
    have hlater : NeverFills (entries.mapM (fragment ctx.objects (reading ctx config) t lead)) :=
      .mapM fun e' _ => neverFills_fragment hops lead e'
    exact List.forall_mem_cons.mpr ⟨(steady_fragment hops hf).after hlater, ih hfs⟩

/-- Conditions that have been compiled are steady. -/
theorem steady_compile (hops : ctx.operators = Operators.builtin) {conditions : Value}
    {mode : AliasMode} {tableAlias : Value} {st : Statement}
    (h : (compile ctx config t conditions mode tableAlias feeds).result = .ok st) :
    Steady ctx.objects (compile ctx config t conditions mode tableAlias feeds).state
      conditions := by
  intro entries hentries e he
  obtain ⟨serial, rfl⟩ := Value.mapping_eq_ok hentries
  cases hentries
  obtain ⟨isTrue, htrue, h⟩ := bind_result_eq_ok.mp h
  have hnonempty : isTrue = true := by
    cases htrue
    cases he <;> rfl
  subst hnonempty
  obtain ⟨_, hmode, h⟩ := bind_result_eq_ok.mp h
  obtain ⟨lead, hlead, h⟩ := bind_result_eq_ok.mp h
  obtain ⟨_, ⟨⟩, h⟩ := bind_result_eq_ok.mp h
  obtain ⟨fs, hfs, -⟩ := bind_result_eq_ok.mp h
  have hstate : (compile ctx config t (.dict entries serial) mode tableAlias feeds).state =
      (entries.mapM (fragment ctx.objects (reading ctx config) t lead) feeds).state := by
    refine (bind_state htrue _).trans ((bind_state hmode _).trans ((bind_state hlead _).trans ?_))
    exact (bind_state (a := entries) rfl _).trans (bind_state hfs _)
  rw [hstate]
  exact steady_fragments hops hfs e he

end Where

theorem Source.Steady.after {α : Type} {x : Action Feeds α} (hx : NeverFills x) {objects : Objects}
    {feeds : Feeds} {source : Value} (h : Source.Steady objects feeds source) :
    Source.Steady objects (x feeds).state source := by
  cases source with
  | dict es => trivial
  | _ => exact fun fields hf => hx fields feeds (h fields hf)

theorem Source.steady_toldKeys {objects : Objects} {feeds : Feeds} {source : Value}
    {keys : List Value} (h : (toldKeys objects source feeds).result = .ok keys) {fields : Value}
    (hfields : read objects source "model_fields_set" = .ok fields) :
    fields.Steady (toldKeys objects source feeds).state := by
  obtain ⟨_, hread, h⟩ := bind_result_eq_ok.mp h
  rw [toldKeys, bind_state hread]
  cases (mapError_eq_ok.mp hread).symm.trans hfields
  split at h
  · trivial
  · exact Value.steady_members h

/-- The source of keys that have been told is steady. -/
theorem Update.steady_supplied {objects : Objects} {feeds : Feeds} {source : Value}
    {keys : List Value} (h : (supplied objects source feeds).result = .ok keys) :
    Source.Steady objects (supplied objects source feeds).state source := by
  unfold supplied at h ⊢
  split at h
  · cases source with
    | null =>
      intro fields hfields
      cases hfields
      trivial
    | _ => contradiction
  · rw [if_neg ‹_›]
    cases source with
    | dict es => trivial
    | _ => exact fun fields hfields => Source.steady_toldKeys h hfields

namespace Builder

variable {ctx : Context} {feeds : Feeds} {b : Builder} {st : Statement}

/-- A builder that has made a statement is steady. -/
theorem steady_build (hops : ctx.operators = Operators.builtin)
    (h : (b.build ctx feeds).result = .ok st) : b.Steady ctx (b.build ctx feeds).state := by
  cases b with
  | select s =>
    obtain ⟨p, hb⟩ := Select.exists_built h
    rw [build, hb.run]
    exact Where.steady_compile hops hb.conditions
  | insert i => trivial
  | update u =>
    obtain ⟨p, hb⟩ := Update.exists_built h
    rw [build, hb.run]
    exact ⟨(Update.steady_supplied hb.keys).after (Where.neverFills_compile hops _ _ _),
      Where.steady_compile hops hb.conditions⟩
  | delete d =>
    obtain ⟨p, hb⟩ := Delete.exists_built h
    rw [build, hb.run]
    exact Where.steady_compile hops hb.conditions

/-- What a build leaves of the feeds. -/
def feedsLeft (ctx : Context) (b : Builder) (feeds : Feeds) : Feeds := (b.build ctx feeds).state

/-- A steady builder builds the same statement every time, with the same reports. Any builder that
has built a statement is steady from then on, so that all later builds are like the second one. -/
theorem build_repeats (hops : ctx.operators = Operators.builtin)
    (h : (b.build ctx feeds).result = .ok st) :
    (b.Steady ctx feeds → ∀ n, b.build ctx ((b.feedsLeft ctx)^[n] feeds) = b.build ctx feeds) ∧
    ∀ n, b.build ctx ((b.feedsLeft ctx)^[n + 1] feeds) = b.build ctx (b.feedsLeft ctx feeds) := by
  have hagain {feeds : Feeds} (hb : b.Steady ctx feeds) (n : Nat) :
      (b.feedsLeft ctx)^[n] feeds = feeds := by
    have hfixed : b.feedsLeft ctx feeds = feeds := rests_build hops hb
    exact Function.iterate_fixed hfixed n
  have hleft : b.Steady ctx (b.feedsLeft ctx feeds) := steady_build hops h
  refine ⟨fun hb n => by rw [hagain hb], fun n => ?_⟩
  rw [Function.iterate_succ_apply, hagain hleft]

end Builder

/-- Pets whose key is among some values. -/
def petsAmong (values : Value) : Builder :=
  .delete ⟨.cls (.plain "Pet"), .usual, .none,
    .dict [(.text "id", .dict [(.text "$in", values)])]⟩

theorem Builder.build_repeats_petsAmong :
    let b := petsAmong (.list [.int 1, .int 2])
    (b.build petContext (b.feedsLeft petContext [[.null]])).result =
      .ok ⟨"DELETE FROM pets WHERE pet_id IN (?, ?)", [.int 1, .int 2]⟩ := by
  intro b
  have h : (b.build petContext [[.null]]).result =
      .ok ⟨"DELETE FROM pets WHERE pet_id IN (?, ?)", [.int 1, .int 2]⟩ := rfl
  have hb : b.Steady petContext [[.null]] := by
    rintro entries ⟨⟩ e he
    obtain rfl := List.mem_singleton.mp he
    rintro tokens operand ⟨⟩
    trivial
  exact (congrArg Outcome.result ((Builder.build_repeats rfl h).1 hb 1)).trans h

/-- A feed is used up by the first build: the second one deletes no pets. -/
theorem Builder.build_differs :
    ¬∀ (ctx : Context) (b : Builder) (feeds : Feeds) (st : Statement),
      ctx.operators = Operators.builtin → (b.build ctx feeds).result = .ok st →
      (b.build ctx (b.feedsLeft ctx feeds)).result = .ok st := by
  intro h
  have hagain : (Except.ok ⟨"DELETE FROM pets WHERE 1 = 0", []⟩ : Except Error Statement) =
      .ok ⟨"DELETE FROM pets WHERE pet_id IN (?, ?)", [.int 1, .int 2]⟩ :=
    h petContext (petsAmong (.feed 0)) [[.int 1, .int 2]] _ rfl rfl
  exact absurd (congrArg (·.params.length) (Except.ok.inj hagain)) (by decide)

end RecordSql
