import RecordSql.Builder.Draft
import RecordSql.Proofs.Assoc
import RecordSql.Proofs.Refinement
import RecordSql.Proofs.Statement.Placeholders

/-! Settings of a selection: what its methods set, and what many of them make of it.

Whether a setting is accepted, and what it then puts into the selection, does not depend on the
settings before it. So a selection is told by the list of what was accepted, and a build reads that
list by parts: the last conditions, alias, limit and offset, the joins one after the other, and each
ordered property in the place of its first entry with the direction of its last one. -/

namespace RecordSql.Select

open RecordSql.Action

/-- A call that sets a part of a selection. -/
inductive Setting where
  | conditions (v : Value)
  | join (relation joinType : Value) (on : Option OnClause)
  | joins (relations : Value)
  | order (key direction : Value)
  | limit (v : Value)
  | offset (v : Value)
  | tableAlias (v : Value)

/-- What a setting that is accepted puts into a selection. -/
inductive Accepted where
  | conditions (v : Value)
  | joins (l : List JoinRequest)
  | order (k : Key) (key : Value) (direction : SortDirection)
  | limit (n : Nat)
  | offset (n : Nat)
  | tableAlias (v : Value)

/-- The parts of a selection. Both ways of asking for joins set the same one. -/
inductive SettingKind where
  | conditions
  | joins
  | ordering
  | limit
  | offset
  | tableAlias

namespace Setting

/-- The setting that a call by name makes, with as many arguments as the method takes. -/
def ofCall? (method : String) (args : List Value) (on : Option OnClause) : Option Setting :=
  match method, args with
  | "where", [v] => some (conditions v)
  | "relation", name :: rest => some (join name (rest.headD .null) on)
  | "relations", [v] => some (joins v)
  | "order_by", key :: rest => some (order key (rest.headD (.text "ASC")))
  | "limit", [v] => some (limit v)
  | "offset", [v] => some (offset v)
  | "alias", [v] => some (tableAlias v)
  | _, _ => none

/-- The selection with a setting, if it is accepted. -/
def apply (objects : Objects) (s : Select) : Setting → Action Feeds Select
  | conditions v => pure (s.where_ v)
  | join relation joinType on => liftM (s.join objects relation joinType on)
  | joins relations => s.joinMany objects relations
  | order key direction => liftM (s.orderBy objects key direction)
  | limit v => liftM (s.setLimit objects v)
  | offset v => liftM (s.setOffset objects v)
  | tableAlias v => liftM (s.setAlias objects v)

/-- What a setting puts into any selection, if it is accepted. -/
def check (objects : Objects) : Setting → Action Feeds Accepted
  | conditions v => pure (.conditions v)
  | join relation joinType on => do
    return .joins [⟨relation, ← JoinType.given objects joinType, on⟩]
  | joins relations => do
    return .joins ((← relations.elements objects).map fun name => ⟨name, none, none⟩)
  | order key direction => do
    let direction ← SortDirection.given objects direction
    return .order (← key.key objects) key direction
  | limit v => do return .limit (← count objects .limit v)
  | offset v => do return .offset (← count objects .offset v)
  | tableAlias v => do
    if ← v.truth objects then return .tableAlias v else Action.fail (.empty .tableAlias)

def kind : Setting → SettingKind
  | conditions _ => .conditions
  | join .. | joins _ => .joins
  | order .. => .ordering
  | limit _ => .limit
  | offset _ => .offset
  | tableAlias _ => .tableAlias

end Setting

/-- An ordered property under its key, which keeps the property that it was ordered by first. -/
def putOrder (ordering : Assoc Key (Value × SortDirection)) (o : Key × Value × SortDirection) :
    Assoc Key (Value × SortDirection) :=
  Assoc.put ordering o.1 (((Assoc.get? ordering o.1).map (·.1)).getD o.2.1, o.2.2)

/-- Puts what is accepted into a selection. -/
def put (s : Select) : Accepted → Select
  | .conditions v => s.where_ v
  | .joins l => { s with joins := s.joins ++ l }
  | .order k key direction => { s with ordering := putOrder s.ordering (k, key, direction) }
  | .limit n => { s with limit := some n }
  | .offset n => { s with offset := some n }
  | .tableAlias v => { s with tableAlias := v }

namespace Setting

variable {objects : Objects}

/-- A setting is checked without regard to the selection that it is made in. -/
theorem apply_eq (x : Setting) (s : Select) :
    x.apply objects s = x.check objects >>= fun a => pure (s.put a) := by
  funext feeds
  cases x with
  | conditions v => rfl
  | join relation joinType on =>
    simp only [apply, check, Select.join]
    cases JoinType.given objects joinType <;> rfl
  | joins relations =>
    simp only [apply, check, joinMany, bind_assoc, pure_bind]
    rfl
  | order key direction =>
    simp only [apply, check, orderBy]
    cases SortDirection.given objects direction with
    | error e => rfl
    | ok d => cases key.key objects <;> rfl
  | limit v =>
    simp only [apply, check, setLimit]
    cases count objects .limit v <;> rfl
  | offset v =>
    simp only [apply, check, setOffset]
    cases count objects .offset v <;> rfl
  | tableAlias v =>
    simp only [apply, check, setAlias]
    rcases v.truth objects with f | ⟨_ | _⟩ <;> rfl

/-- Of the methods of a selection, all but the one that finishes it make settings. -/
theorem callMethod_eq (ctx : Context) (s : Select) (method : String) (args : List Value)
    (on : Option OnClause) : Builder.callMethod ctx (.select s) method args on =
      match ofCall? method args on with
      | some x => do return .builder (.select (← x.apply ctx.objects s))
      | none => do return .statement (← s.build ctx) := by
  cases hc : ofCall? method args on with
  | some x =>
    unfold ofCall? at hc
    split at hc
    case h_8 => cases hc
    all_goals
      cases hc
      rfl
  | none =>
    unfold Builder.callMethod
    split
    case h_13 => rfl
    all_goals simp_all [ofCall?]

end Setting

/-! ### Calls one after the other -/

/-- A setting in its turn, with the objects as they are then. -/
structure Turn where
  objects : Objects
  setting : Setting

namespace Turn

def run (x : Turn) (s : Select) : Action Feeds Select := x.setting.apply x.objects s

def check (x : Turn) : Action Feeds Accepted := x.setting.check x.objects

end Turn

/-- The selection after settings, and what is left of the feeds. It stays as it was where a setting
is refused. -/
def after (s : Select) (feeds : Feeds) : List Turn → Select × Feeds
  | [] => (s, feeds)
  | x :: l =>
    let o := x.run s feeds
    after (o.result.toOption.getD s) o.state l

/-- What is accepted of settings, and what is left of the feeds. -/
def accepted (feeds : Feeds) : List Turn → List Accepted × Feeds
  | [] => ([], feeds)
  | x :: l =>
    let o := x.check feeds
    let rest := accepted o.state l
    (o.result.toOption.toList ++ rest.1, rest.2)

/-- A call by name leads the builder of a selection to what the setting makes of it. -/
theorem call_run {cs : Contexts} {s : Select} {method : String} {args : List Value}
    {on : Option OnClause} {p : Parameters} {x : Setting}
    (hm : Assoc.get? BuilderKind.select.methods method = some p)
    (ha : Draft.checkMethod .select method p args.length = .ok ())
    (hx : Setting.ofCall? method args on = some x) (feeds : Feeds) :
    Draft.call cs (.plain (.select s)) method args on feeds =
      let left := s.after feeds [⟨cs.objects, x⟩]
      ⟨.ok (.plain (.select left.1), match (x.apply cs.objects s feeds).result with
        | .ok _ => .self
        | .error e => .failed e), left.2, (x.apply cs.objects s feeds).log⟩ := by
  have hkind : (Draft.plain (.select s)).kind = .select := rfl
  have hbuilder : (Builder.select s).kind = .select := rfl
  have hobjects : (cs .given).objects = cs.objects := rfl
  have hplain : Draft.call cs (.plain (.select s)) method args on =
      Draft.callPlain cs (.select s) method p args on := by
    unfold Draft.call
    rw [hkind, hm]
  rw [hplain, Draft.callPlain, hbuilder, ha, Setting.callMethod_eq, hx]
  dsimp only [after, Turn.run]
  rw [attempt_bind_run, liftM_fault_bind_run, hobjects]
  dsimp only
  rw [bind_run]
  rcases x.apply cs.objects s feeds with ⟨_ | s', feeds', log⟩
  · simp [Except.toOption]
  · simp [Except.toOption]

theorem after_append (s : Select) (feeds : Feeds) (l l' : List Turn) :
    s.after feeds (l ++ l') = (s.after feeds l).1.after (s.after feeds l).2 l' := by
  induction l generalizing s feeds with
  | nil => rfl
  | cons x l ih => exact ih _ _

/-- A selection after settings is made of what was accepted. -/
theorem after_eq (s : Select) (feeds : Feeds) (l : List Turn) :
    s.after feeds l = ((accepted feeds l).1.foldl put s, (accepted feeds l).2) := by
  induction l generalizing s feeds with
  | nil => rfl
  | cons x l ih =>
    have hrun : x.run s = x.check >>= fun a => pure (s.put a) := x.setting.apply_eq s
    rw [after, accepted, hrun, bind_run]
    rcases x.check feeds with ⟨e | a, feeds', log⟩
    · exact ih s feeds'
    · exact ih (s.put a) feeds'

/-! ### What was accepted, by parts -/

namespace Accepted

def conditions? : Accepted → Option Value
  | conditions v => some v
  | _ => none

def joined : Accepted → List JoinRequest
  | joins l => l
  | _ => []

def order? : Accepted → Option (Key × Value × SortDirection)
  | order k key direction => some (k, key, direction)
  | _ => none

def limit? : Accepted → Option Nat
  | limit n => some n
  | _ => none

def offset? : Accepted → Option Nat
  | offset n => some n
  | _ => none

def tableAlias? : Accepted → Option Value
  | tableAlias v => some v
  | _ => none

def kind : Accepted → SettingKind
  | conditions _ => .conditions
  | joins _ => .joins
  | order .. => .ordering
  | limit _ => .limit
  | offset _ => .offset
  | tableAlias _ => .tableAlias

/-- The last value that is accepted for a part. -/
def last? {α : Type} (part? : Accepted → Option α) (l : List Accepted) : Option α :=
  (l.filterMap part?).getLast?

end Accepted

/-- Ordered properties, each in the place of its first entry with the direction of its last one. -/
def orderList (l : List (Key × Value × SortDirection)) : List (Value × SortDirection) :=
  (l.map (·.1)).eraseDups.filterMap fun k => do
    let first ← l.find? (·.1 = k)
    let last ← l.reverse.find? (·.1 = k)
    return (first.2.1, last.2.2)

/-- Settings that agree in what a build asks of them. -/
structure Alike (l l' : List Accepted) : Prop where
  conditions : Accepted.last? Accepted.conditions? l = Accepted.last? Accepted.conditions? l'
  joins : l.flatMap Accepted.joined = l'.flatMap Accepted.joined
  ordering : orderList (l.filterMap Accepted.order?) = orderList (l'.filterMap Accepted.order?)
  limit : Accepted.last? Accepted.limit? l = Accepted.last? Accepted.limit? l'
  offset : Accepted.last? Accepted.offset? l = Accepted.last? Accepted.offset? l'
  tableAlias : Accepted.last? Accepted.tableAlias? l = Accepted.last? Accepted.tableAlias? l'

/-- A part that each setting of its kind replaces is what the last one makes of it. -/
theorem foldl_put_last {α β : Type} {part : Select → β} {part? : Accepted → Option α} {f : α → β}
    (h : ∀ s a, part (put s a) = (part? a).elim (part s) f) (l : List Accepted) (s : Select) :
    part (l.foldl put s) = (Accepted.last? part? l).elim (part s) f := by
  induction l generalizing s with
  | nil => rfl
  | cons a l ih =>
    rw [List.foldl_cons, ih, h, Accepted.last?, Accepted.last?, List.filterMap_cons]
    cases part? a with
    | none => rfl
    | some b =>
      simp only [List.getLast?_cons]
      cases (l.filterMap part?).getLast? <;> rfl

theorem joins_foldl_put (l : List Accepted) (s : Select) :
    (l.foldl put s).joins = s.joins ++ l.flatMap Accepted.joined := by
  induction l generalizing s with
  | nil => simp
  | cons a l ih =>
    have ha : (put s a).joins = s.joins ++ a.joined := by
      cases a <;> simp [put, where_, Accepted.joined]
    rw [List.foldl_cons, ih, ha, List.flatMap_cons, List.append_assoc]

theorem ordering_foldl_put (l : List Accepted) (s : Select) :
    (l.foldl put s).ordering = (l.filterMap Accepted.order?).foldl putOrder s.ordering := by
  induction l generalizing s with
  | nil => rfl
  | cons a l ih =>
    rw [List.foldl_cons, ih, List.filterMap_cons]
    cases a <;> rfl

/-- What is ordered under a key: its first property, in its last direction. -/
theorem get?_foldl_putOrder (l : List (Key × Value × SortDirection)) (k : Key) :
    Assoc.get? (l.foldl putOrder []) k = do
      let first ← l.find? (·.1 = k)
      let last ← l.reverse.find? (·.1 = k)
      return (first.2.1, last.2.2) := by
  induction l using List.reverseRecOn generalizing k with
  | nil => rfl
  | append_singleton l o ih =>
    rw [List.foldl_concat, putOrder, Assoc.get?_put, ih, ih, List.find?_append,
      List.reverse_concat, List.find?_cons]
    by_cases h : o.1 = k
    · subst h
      cases hf : l.find? (·.1 = o.1) with
      | none => simp
      | some first =>
        obtain ⟨last, hl⟩ : ∃ last, l.reverse.find? (·.1 = o.1) = some last := by
          rw [← Option.isSome_iff_exists, List.find?_isSome]
          have hkey := List.find?_some hf
          exact ⟨first, List.mem_reverse.mpr (List.mem_of_find?_eq_some hf), hkey⟩
        simp [hl]
    · simp [h]

theorem values_foldl_putOrder (l : List (Key × Value × SortDirection)) :
    Assoc.values (l.foldl putOrder []) = orderList l := by
  have hkeys : Assoc.keys (l.foldl putOrder []) = (l.map (·.1)).eraseDups :=
    Assoc.keys_foldl_put_by (·.1) _ l
  have hnodup : (Assoc.keys (l.foldl putOrder [])).Nodup :=
    Assoc.nodup_keys_foldl_put_by (m := []) (·.1) _ List.nodup_nil l
  rw [Assoc.values_eq hnodup, hkeys, orderList]
  exact List.filterMap_congr fun k _ => get?_foldl_putOrder l k

/-- A build asks of the ordering for its entries only, not for their keys. -/
theorem build_congr {s s' : Select} (he : s.entity = s'.entity) (hc : s.config = s'.config)
    (hv : s.conditions = s'.conditions) (hj : s.joins = s'.joins)
    (ho : Assoc.values s.ordering = Assoc.values s'.ordering) (hl : s.limit = s'.limit)
    (hf : s.offset = s'.offset) (ha : s.tableAlias = s'.tableAlias) (ctx : Context) :
    s.build ctx = s'.build ctx := by
  obtain ⟨_, _, _, _, _, _, _, _⟩ := s
  obtain ⟨_, _, _, _, _, _, _, _⟩ := s'
  subst he hc hv hj hl hf ha
  simp only [build, ho]

theorem entity_foldl_put (l : List Accepted) (s : Select) :
    (l.foldl put s).entity = s.entity ∧ (l.foldl put s).config = s.config := by
  induction l generalizing s with
  | nil => exact ⟨rfl, rfl⟩
  | cons a l ih =>
    have ha : (put s a).entity = s.entity ∧ (put s a).config = s.config := by
      cases a <;> exact ⟨rfl, rfl⟩
    rw [List.foldl_cons, (ih _).1, (ih _).2]
    exact ha

/-- Settings that agree by parts make selections that are built alike. -/
theorem build_of_alike {l l' : List Accepted} (h : Alike l l') (entity : Value) (config : Config)
    (ctx : Context) : (l.foldl put (.of entity config)).build ctx =
      (l'.foldl put (.of entity config)).build ctx := by
  have hlast {α β : Type} {part : Select → β} {part? : Accepted → Option α} {f : α → β}
      (hput : ∀ s a, part (put s a) = (part? a).elim (part s) f)
      (he : Accepted.last? part? l = Accepted.last? part? l') :
      part (l.foldl put (.of entity config)) = part (l'.foldl put (.of entity config)) := by
    rw [foldl_put_last hput, foldl_put_last hput, he]
  refine build_congr ?_ ?_ ?_ ?_ ?_ ?_ ?_ ?_ ctx
  · rw [(entity_foldl_put l _).1, (entity_foldl_put l' _).1]
  · rw [(entity_foldl_put l _).2, (entity_foldl_put l' _).2]
  · exact hlast (f := id) (fun s a => by cases a <;> rfl) h.conditions
  · rw [joins_foldl_put, joins_foldl_put, h.joins]
  · have hnone : (Select.of entity config).ordering = [] := rfl
    rw [ordering_foldl_put, ordering_foldl_put, hnone, values_foldl_putOrder,
      values_foldl_putOrder, h.ordering]
  · exact hlast (f := some) (fun s a => by cases a <;> rfl) h.limit
  · exact hlast (f := some) (fun s a => by cases a <;> rfl) h.offset
  · exact hlast (f := id) (fun s a => by cases a <;> rfl) h.tableAlias

/-! ### Refused settings, and settings of different kinds -/

theorem Accepted.kind_of_check {objects : Objects} {x : Setting} {feeds : Feeds} {a : Accepted}
    (h : (x.check objects feeds).result = .ok a) : a.kind = x.kind := by
  cases x with
  | conditions v =>
    cases h
    rfl
  | join relation joinType on =>
    obtain ⟨_, _, h⟩ := bind_result_eq_ok.mp h
    cases h
    rfl
  | joins relations =>
    obtain ⟨_, _, h⟩ := bind_result_eq_ok.mp h
    cases h
    rfl
  | order key direction =>
    obtain ⟨_, _, h⟩ := bind_result_eq_ok.mp h
    obtain ⟨_, _, h⟩ := bind_result_eq_ok.mp h
    cases h
    rfl
  | limit v =>
    obtain ⟨_, _, h⟩ := bind_result_eq_ok.mp h
    cases h
    rfl
  | offset v =>
    obtain ⟨_, _, h⟩ := bind_result_eq_ok.mp h
    cases h
    rfl
  | tableAlias v =>
    obtain ⟨b, _, h⟩ := bind_result_eq_ok.mp h
    cases b <;> cases h
    rfl

/-- Only joins look at the feeds. -/
theorem Setting.computes_check (objects : Objects) {x : Setting} (h : x.kind ≠ .joins) :
    Computes (x.check objects) := by
  cases x with
  | conditions v => exact .pure _
  | join relation joinType on => exact absurd rfl h
  | joins relations => exact absurd rfl h
  | order key direction =>
    exact .bind (.lifted _) fun _ => .bind (.liftedFault _) fun _ => .pure _
  | limit v => exact .bind (.lifted _) fun _ => .pure _
  | offset v => exact .bind (.lifted _) fun _ => .pure _
  | tableAlias v => exact .bind (.liftedFault _) fun _ => .ite (.pure _) (.fail _)

/-- A value that cannot be gone through is no feed. -/
theorem elements_state_of_error {objects : Objects} {v : Value} {feeds : Feeds} {e : Error}
    (h : (v.elements objects feeds).result = .error e) :
    (v.elements objects feeds).state = feeds := by
  cases v with
  | feed i => cases h
  | _ => rfl

/-- A setting that is refused leaves the feeds as they are. -/
theorem Setting.state_of_refused {objects : Objects} {x : Setting} {feeds : Feeds} {e : Error}
    (h : (x.check objects feeds).result = .error e) : (x.check objects feeds).state = feeds := by
  by_cases hx : x.kind = .joins
  · cases x with
    | join relation joinType on =>
      obtain ⟨r, hr⟩ : Computes (check objects (.join relation joinType on)) :=
        .bind (.lifted _) fun _ => .pure _
      rw [hr]
    | joins relations =>
      cases hc : (relations.elements objects feeds).result with
      | ok l =>
        rw [check, bind_run_of_ok hc] at h
        cases h
      | error e =>
        rw [check, bind_run_of_error hc]
        exact elements_state_of_error hc
    | _ => cases hx
  · obtain ⟨r, hr⟩ := computes_check objects hx
    rw [hr]

/-- What is put into different parts may be put in any order. -/
theorem put_comm {a b : Accepted} (h : a.kind ≠ b.kind) (s : Select) :
    (s.put a).put b = (s.put b).put a := by
  cases a <;> cases b <;> first | rfl | exact absurd rfl h

/-- A setting that is refused is as if it had not been made. -/
theorem after_refused {x : Turn} {s : Select} {feeds : Feeds} {e : Error}
    (h : (x.run s feeds).result = .error e) (l : List Turn) :
    s.after feeds (x :: l) = s.after feeds l := by
  have hrun : x.run s = x.check >>= fun a => pure (s.put a) := x.setting.apply_eq s
  have hstate : (x.run s feeds).state = feeds := by
    rw [hrun] at h ⊢
    cases hc : (x.check feeds).result with
    | ok a =>
      rw [bind_run_of_ok hc] at h
      cases h
    | error e =>
      rw [bind_run_of_error hc]
      exact Setting.state_of_refused hc
  rw [after, h, hstate]
  rfl

theorem after_swap_of_computes {x y : Turn} (hx : Computes x.check)
    (h : x.setting.kind ≠ y.setting.kind) (s : Select) (feeds : Feeds) (l : List Turn) :
    s.after feeds (x :: y :: l) = s.after feeds (y :: x :: l) := by
  obtain ⟨r, hr⟩ := hx
  rw [after_eq, after_eq]
  simp only [accepted, hr]
  cases r with
  | error e => rfl
  | ok a =>
    have hresult : (x.check feeds).result = .ok a := congrArg Outcome.result (hr feeds)
    have ha : a.kind = x.setting.kind := Accepted.kind_of_check hresult
    cases hy : (y.check feeds).result with
    | error e => rfl
    | ok b =>
      have hb : b.kind = y.setting.kind := Accepted.kind_of_check hy
      have hab : a.kind ≠ b.kind := by rwa [ha, hb]
      simp [Except.toOption, put_comm hab]

/-- Settings of different kinds may be made in any order. -/
theorem after_swap {x y : Turn} (h : x.setting.kind ≠ y.setting.kind) (s : Select) (feeds : Feeds)
    (l : List Turn) : s.after feeds (x :: y :: l) = s.after feeds (y :: x :: l) := by
  by_cases hx : x.setting.kind = .joins
  · have hy : y.setting.kind ≠ .joins := fun hy => h (hx.trans hy.symm)
    exact (after_swap_of_computes (Setting.computes_check _ hy) (Ne.symm h) s feeds l).symm
  · exact after_swap_of_computes (Setting.computes_check _ hx) h s feeds l

/-- A property that is ordered again keeps its place and its first spelling. -/
theorem after_reorder {s : Select} {objects : Objects} {key direction first : Value} {k : Key}
    {d old : SortDirection} (hk : key.key objects = .ok k)
    (hd : SortDirection.given objects direction = .ok d)
    (ho : Assoc.get? s.ordering k = some (first, old)) (feeds : Feeds) :
    let ordering := (s.after feeds [⟨objects, .order key direction⟩]).1.ordering
    Assoc.keys ordering = Assoc.keys s.ordering ∧
      ∀ j, Assoc.get? ordering j = if k = j then some (first, d) else Assoc.get? s.ordering j := by
  intro ordering
  have hordering : ordering = Assoc.put s.ordering k (first, d) := by
    have hcheck : Setting.check objects (.order key direction) feeds =
        ⟨.ok (.order k key d), feeds, []⟩ := by
      simp only [Setting.check, hd, hk]
      rfl
    simp only [ordering, after_eq, accepted, Turn.check, hcheck]
    simp [Except.toOption, put, putOrder, ho]
  constructor
  · rw [hordering, Assoc.keys_put, if_pos]
    exact Assoc.isSome_get?_iff.mp (by rw [ho]; rfl)
  · intro j
    rw [hordering, Assoc.get?_put]

/-- A selection is the sum of its settings: two lists of calls lead to the same build if what they
were accepted for agrees in the last conditions, alias, limit and offset, in the joins and in the
ordering. So a refused call leaves no trace, calls that set different parts may be swapped, and to
order by a property again changes its direction only. -/
theorem settings_add_up (entity : Value) (config : Config) :
    (∀ cs s method args on p x feeds,
      Assoc.get? BuilderKind.select.methods method = some p →
      Draft.checkMethod .select method p args.length = .ok () →
      Setting.ofCall? method args on = some x →
      ∃ reply log, Draft.call cs (.plain (.select s)) method args on feeds =
        ⟨.ok (.plain (.select (s.after feeds [⟨cs.objects, x⟩]).1), reply),
          (s.after feeds [⟨cs.objects, x⟩]).2, log⟩) ∧
    (∀ ctx feeds feeds' l l', Alike (accepted feeds l).1 (accepted feeds' l').1 →
      ((of entity config).after feeds l).1.build ctx =
        ((of entity config).after feeds' l').1.build ctx) ∧
    (∀ (s : Select) feeds x l e, (Turn.run x s feeds).result = .error e →
      s.after feeds (x :: l) = s.after feeds l) ∧
    (∀ (s : Select) feeds x y l, x.setting.kind ≠ y.setting.kind →
      s.after feeds (x :: y :: l) = s.after feeds (y :: x :: l)) ∧
    ∀ (s : Select) feeds objects key direction k d first old, key.key objects = .ok k →
      SortDirection.given objects direction = .ok d →
      Assoc.get? s.ordering k = some (first, old) →
      let ordering := (s.after feeds [⟨objects, .order key direction⟩]).1.ordering
      Assoc.keys ordering = Assoc.keys s.ordering ∧
        ∀ j, Assoc.get? ordering j =
          if k = j then some (first, d) else Assoc.get? s.ordering j := by
  refine ⟨?_, ?_, ?_, ?_, ?_⟩
  · intro cs s method args on p x feeds hm ha hx
    exact ⟨_, _, call_run hm ha hx feeds⟩
  · intro ctx feeds feeds' l l' h
    rw [after_eq, after_eq]
    exact build_of_alike h entity config ctx
  · intro s feeds x l e h
    exact after_refused h l
  · intro s feeds x y l h
    exact after_swap h s feeds l
  · intro s feeds objects key direction k d first old hk hd ho
    exact after_reorder hk hd ho feeds

/-- The settings of a selection, with a limit that is refused, conditions that are replaced, and a
property that is ordered twice. -/
def longWay : List Turn :=
  [.order (.text "name") (.text "desc"), .limit (.int (-1)), .conditions .null,
    .order (.text "id") (.text "ASC"), .conditions (.dict [(.text "id", .int 7)]), .limit (.int 5),
    .order (.text "name") (.text "ASC")].map (⟨noObjects, ·⟩)

/-- The same selection without detours. -/
def shortWay : List Turn :=
  [.limit (.int 5), .order (.text "name") (.text "asc"),
    .conditions (.dict [(.text "id", .int 7)]), .order (.text "id") (.text "asc")].map
      (⟨noObjects, ·⟩)

theorem settings_add_up_pets :
    let s := of (.cls (.plain "Pet")) .usual
    Alike (accepted [] longWay).1 (accepted [] shortWay).1 ∧
      (s.after [] longWay).1.build petContext = (s.after [] shortWay).1.build petContext ∧
      Assoc.values (s.after [] longWay).1.ordering =
        [(.text "name", .ascending), (.text "id", .ascending)] := by
  have halike : Alike (accepted [] longWay).1 (accepted [] shortWay).1 :=
    ⟨rfl, rfl, rfl, rfl, rfl, rfl⟩
  obtain ⟨-, hbuild, -⟩ := settings_add_up (.cls (.plain "Pet")) .usual
  exact ⟨halike, hbuild petContext [] [] longWay shortWay halike, rfl⟩

end RecordSql.Select
