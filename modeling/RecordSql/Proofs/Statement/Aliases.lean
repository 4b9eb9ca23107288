import RecordSql.Proofs.Statement.Clause
import RecordSql.Proofs.Statement.Joins

/-! Aliases: where the name that the table of a SELECT goes by stands in the statement. A statement
is a stencil with a gap at each of these places; which stencil it is, what is bound, and whether
there is a statement at all do not depend on the alias. -/

namespace RecordSql

open RecordSql.Action

/-! ### Stencils -/

/-- A piece of a statement: a text, or the place of the alias. -/
inductive Span where
  | text (s : String)
  | gap

/-- A text with gaps. -/
abbrev Stencil := List Span

namespace Stencil

/-- The text with the same alias in every gap. -/
def fill (a : String) : Stencil → String
  | [] => ""
  | .text s :: p => s ++ fill a p
  | .gap :: p => a ++ fill a p

/-- The texts before, between and behind the gaps. -/
def segments : Stencil → List String
  | [] => [""]
  | .text s :: p => (segments p).modifyHead (s ++ ·)
  | .gap :: p => "" :: segments p

variable (a : String)

@[simp] theorem fill_nil : fill a [] = "" := rfl

@[simp] theorem fill_text (s : String) (p : Stencil) : fill a (.text s :: p) = s ++ fill a p := rfl

@[simp] theorem fill_gap (p : Stencil) : fill a (.gap :: p) = a ++ fill a p := rfl

@[simp] theorem fill_append (p q : Stencil) : fill a (p ++ q) = fill a p ++ fill a q := by
  induction p with
  | nil => simp
  | cons span p ih => cases span <;> simp [ih, String.append_assoc]

theorem segments_ne_nil (p : Stencil) : p.segments ≠ [] := by
  induction p with
  | nil => simp [segments]
  | cons span p ih => cases span <;> simp [segments, ih]

/-- A stencil is filled by putting the alias between its segments. -/
theorem intercalate_segments (p : Stencil) : a.intercalate p.segments = p.fill a := by
  induction p with
  | nil => simp [segments]
  | cons span p ih =>
    obtain ⟨s, l, hl⟩ := List.exists_cons_of_ne_nil (segments_ne_nil p)
    cases span with
    | text t =>
      rw [fill_text, ← ih, segments, hl, List.modifyHead_cons]
      cases l <;> simp [String.intercalate_cons_cons, String.append_assoc]
    | gap =>
      rw [fill_gap, ← ih, segments, hl, String.intercalate_cons_cons, String.empty_append]

/-- Stencils one after the other, with a text between any two. -/
def separated (sep : String) (l : List Stencil) : Stencil := [Span.text sep].intercalate l

/-- Stencils behind a keyword, if there are any. -/
def behind (keyword sep : String) (l : List Stencil) : Stencil :=
  if l.isEmpty then [] else .text keyword :: separated sep l

theorem fill_separated (sep : String) (l : List Stencil) :
    fill a (separated sep l) = sep.intercalate (l.map (fill a)) := by
  induction l with
  | nil => simp [separated]
  | cons p l ih =>
    cases l with
    | nil => simp [separated]
    | cons q l =>
      have hrest : fill a ([Span.text sep].intercalate (q :: l)) = _ := ih
      simp [separated, List.intercalate_cons_cons, String.intercalate_cons_cons, hrest,
        String.append_assoc]

theorem fill_behind (keyword sep : String) (l : List Stencil) :
    fill a (behind keyword sep l) =
      if l.isEmpty then "" else keyword ++ sep.intercalate (l.map (fill a)) := by
  rw [behind]
  split
  · rfl
  · rw [fill_text, fill_separated]

end Stencil

/-- A text that is not empty counts as given. -/
theorem Value.truthy_text {a : String} (ha : a ≠ "") : (text a).truthy = true := by
  simpa [truthy] using ha

theorem Value.truth_text {a : String} (ha : a ≠ "") (objects : Objects) :
    (text a).truth objects = .ok true :=
  congrArg Except.ok (truthy_text ha)

/-! ### Conditions -/

/-- The condition on a column that stands behind the alias; nothing is among no items. -/
def Form.stencil (name : String) (form : Form) : Stencil :=
  if form = .member 0 then [.text "1 = 0"] else [.gap, .text ("." ++ form.condition name)]

theorem Form.fill_stencil (a name : String) (form : Form) :
    (form.stencil name).fill a = form.condition (a ++ "." ++ name) := by
  cases form with
  | member count =>
    by_cases h : count = 0
    · simp [stencil, condition, h]
    · simp [stencil, condition, h, String.append_assoc]
  | _ => simp [stencil, condition, String.append_assoc]

theorem Form.fill_stencil_ne_empty (a name : String) (form : Form) :
    (form.stencil name).fill a ≠ "" := by
  rw [stencil]
  split
  · simp
  · simp [String.append_eq_empty_iff]

/-- The text that stands for a key behind the alias: the name of its column, or the key as it is. -/
def Table.written (objects : Objects) (t : Table) (key : Value) : Except Fault String := do
  Where.columnName objects (← t.column? objects key) key

/-- Conditions that bind the same values. -/
def Fragment.Alike (f f' : Fragment) : Prop := f'.params = f.params

/-- What a condition is made of: the written key of an outline, and its form. -/
def Where.Stands (objects : Objects) (t : Table) (o : Outline) (c : String × Form) : Prop :=
  t.written objects o.key = .ok c.1 ∧ o.form = c.2

/-- A handler that makes conditions on any two references in the same way. -/
def Handler.Uniform (h : Handler) : Prop :=
  ∀ objects reference reference' operand bind,
    Follows Fragment.Alike (h objects reference operand bind) (h objects reference' operand bind)

namespace Handler

theorem uniform_comparison (symbol : String) : (comparison symbol).Uniform := by
  intro objects reference reference' operand bind
  exact .same (.lifted _) fun p _ => .pure rfl

theorem uniform_like : like.Uniform := by
  intro objects reference reference' operand bind
  exact .pure rfl

theorem uniform_null : null.Uniform := by
  intro objects reference reference' operand bind
  exact .same (.liftedFault _) fun isNull _ => .pure rfl

theorem uniform_member : member.Uniform := by
  intro objects reference reference' operand bind
  cases operand with
  | text s => exact .fail
  | bytes bs => exact .fail
  | _ =>
    refine .same (.liftedFault _) fun _ _ => .same (.liftedFault _) fun isIterable _ => ?_
    refine .ite (fun _ => .same (.any _) fun items _ => ?_) fun _ => .fail
    exact .ite (fun _ => .pure rfl) fun _ => .same (.lifted _) fun params _ => .pure rfl

end Handler

theorem Operators.uniform_builtin : ∀ e ∈ builtin, e.2.Uniform := by
  have hc := Handler.uniform_comparison
  simp only [builtin, List.forall_mem_cons]
  exact ⟨hc _, hc _, hc _, hc _, hc _, hc _, Handler.uniform_like, Handler.uniform_null,
    Handler.uniform_member, fun _ h => absurd h List.not_mem_nil⟩

namespace Where

variable {ctx : Context} {config : Config} {t : Table}

/-- Which values are bound does not depend on the text in front of every column. -/
theorem alike_fragment (hops : ctx.operators = Operators.builtin) (lead lead' : String)
    (entry : Value × Value) :
    Follows Fragment.Alike (fragment ctx.objects (reading ctx config) t lead entry)
      (fragment ctx.objects (reading ctx config) t lead' entry) := by
  refine .same (.any _) fun column _ => .same (.any _) fun condition _ => ?_
  refine .same (.liftedFault _) fun name _ => ?_
  cases condition with
  | literal v => exact .same (.lifted _) fun p _ => .pure rfl
  | operator token operand =>
    refine .same (.lifted _) fun handle hhandle => ?_
    change ctx.operators.handler ctx.objects token = _ at hhandle
    rw [hops] at hhandle
    obtain ⟨s, rfl, hs⟩ := Operators.handler_eq_ok hhandle
    exact Operators.uniform_builtin (s, handle) (Assoc.mem_of_get? hs) _ _ _ _ _

theorem aliasOf_text (objects : Objects) (t : Table) {a : String} (ha : a ≠ "") :
    aliasOf objects t (.text a) = .ok a := by
  rw [aliasOf, Value.truth_text ha]
  rfl

/-- What is bound does not depend on the alias, nor does whether there is a predicate. -/
theorem alike_compile (hops : ctx.operators = Operators.builtin) (conditions : Value)
    (tableAlias : Value) {b : String} (hb : b ≠ "") :
    Follows (fun st st' => st'.params = st.params)
      (compile ctx config t conditions .tableName tableAlias)
      (compile ctx config t conditions .tableName (.text b)) := by
  refine .same (.liftedFault _) fun isTrue _ => .ite (fun _ => .pure rfl) fun _ => ?_
  refine .same (.lifted _) fun mode hmode => ?_
  cases hmode
  have hlead : qualifier ctx.objects .tableName t (.text b) = .ok (b ++ ".") := by
    rw [qualifier, aliasOf_text ctx.objects t hb]
    rfl
  rw [hlead]
  refine .bind (r := fun _ _ => True) (fun s lead _ => ⟨b ++ ".", rfl, rfl, trivial⟩) ?_
  intro lead lead' _
  refine .same (.any _) fun entries _ => ?_
  refine .bind (.mapM fun entry _ => alike_fragment hops _ _ entry) fun fs gs hfs => .pure ?_
  have hparams : gs.map (·.params) = fs.map (·.params) := by
    induction hfs with
    | nil => rfl
    | cons hf _ ih => rw [List.map_cons, List.map_cons, ih, show _ = _ from hf]
  simp only [joined, List.flatMap_def, hparams]

section

variable {objects : Objects} {lead a : String} {fs : List Fragment} {log : List Notice}
  {os : List Outline} {cs : List (String × Form)}

theorem exists_stands (h : Along (Outline.Tells objects t lead) fs log os) :
    ∃ cs, List.Forall₂ (Stands objects t) os cs := by
  induction h with
  | nil => exact ⟨[], .nil⟩
  | @cons f o fs os log logs hf _ ih =>
    obtain ⟨cs, hcs⟩ := ih
    obtain ⟨column, name, hcolumn, hname, -⟩ := hf.told
    have hwritten : t.written objects o.key = .ok name := bind_eq_ok.mpr ⟨column, hcolumn, hname⟩
    exact ⟨(name, o.form) :: cs, .cons ⟨hwritten, rfl⟩ hcs⟩

/-- Conditions that are told behind an alias are the stencils that stand there. -/
theorem conditions_fill (h : Along (Outline.Tells objects t lead) fs log os)
    (hlead : os ≠ [] → lead = a ++ ".") (hcs : List.Forall₂ (Stands objects t) os cs) :
    fs.map (·.condition) = cs.map fun c => (c.2.stencil c.1).fill a := by
  induction h generalizing cs with
  | nil =>
    cases hcs
    rfl
  | @cons f o fs os log logs hf _ ih =>
    obtain ⟨⟨name, form⟩, cs, ⟨hwritten, rfl⟩, hrest, rfl⟩ := List.forall₂_cons_left_iff.mp hcs
    obtain rfl := hlead (by simp)
    obtain ⟨column, name', hcolumn, hname, hcondition, -⟩ := hf.told
    have hwritten' : t.written objects o.key = .ok name' := bind_eq_ok.mpr ⟨column, hcolumn, hname⟩
    obtain rfl : name' = name := Except.ok.inj (hwritten'.symm.trans hwritten)
    rw [List.map_cons, List.map_cons, ih (fun _ => rfl) hrest, hcondition, Form.fill_stencil]

end

end Where

/-! ### Statements -/

/-- What of a SELECT is told without its alias: the table, the joins, the written keys and the forms
of the conditions, the written keys and the directions of the ordering, and what is bound. -/
structure Select.Plan where
  table : Table
  joins : List Join.Parts
  conditions : List (String × Form)
  ordering : List (String × SortDirection)
  params : List Value

/-- The clause of a join. Its target goes by its own name; only what is joined to has the alias. -/
def Join.Parts.stencil (p : Parts) : Stencil :=
  [.text (p.joinType.keyword ++ " " ++ p.relation.targetTable ++ " ON "), .gap,
    .text ("." ++ p.relation.selfReference ++ " = " ++ p.relation.targetTable ++ "." ++
      p.relation.targetColumn ++ if p.extra = "" then "" else " AND " ++ p.extra)]

/-- A relation that is joined leads somewhere. -/
theorem Join.exists_leads {ctx : Context} {config : Config} {t : Table} {tableAlias : String}
    {request : JoinRequest} {j : Join} (h : expand ctx config t tableAlias request = .ok j) :
    ∃ p, request.Leads ctx config t p := by
  obtain ⟨relation, hrelation, h⟩ := bind_eq_ok.mp h
  cases relation with
  | none => cases h
  | some r =>
    obtain ⟨tables, htables, h⟩ := bind_eq_ok.mp h
    cases htables
    obtain ⟨entity, hentity, h⟩ := bind_eq_ok.mp h
    obtain ⟨target, htarget, h⟩ := bind_eq_ok.mp h
    obtain ⟨separator, hseparator, h⟩ := bind_eq_ok.mp h
    obtain ⟨joinType, hjoinType, h⟩ := bind_eq_ok.mp h
    obtain ⟨on, hon, h⟩ := bind_eq_ok.mp h
    obtain ⟨extra, hextra, -⟩ := bind_eq_ok.mp h
    cases hjoinType
    cases hon
    have hcalled : request.on.elim (.ok "") (· r.targetTable) = .ok extra := by
      cases hf : request.on with
      | none =>
        rw [hf] at hextra
        exact congrArg Except.ok (Except.ok.inj hextra)
      | some f =>
        rw [hf] at hextra
        exact mapError_eq_ok.mp hextra
    exact ⟨⟨r, target, _, extra⟩, mapError_eq_ok.mp hrelation,
      ⟨entity, mapError_eq_ok.mp hentity, htarget⟩, rfl, hcalled⟩

theorem Join.Parts.fill_stencil (p : Parts) (a : String) : p.stencil.fill a = p.clause a := by
  simp [stencil, clause, String.append_assoc]

namespace Select

/-- A column of the table, with its name in the rows. -/
def columnStencil (separator : String) (c : Column) : Stencil :=
  [.gap, .text ("." ++ c.name ++ " AS "), .gap, .text (separator ++ c.name)]

/-- The statement up to its conditions. -/
def headStencil (separator : String) (t : Table) (joins : List Join.Parts) : Stencil :=
  let columns := t.columns.map (columnStencil separator) ++
    (joins.flatMap (·.columns separator)).map fun column => [Span.text column]
  let start := .text "SELECT " :: Stencil.separated ", " columns ++
    [.text (" FROM " ++ t.name ++ " "), .gap]
  Stencil.separated " " (start :: joins.map (·.stencil))

/-- An entry of the ordering. -/
def orderStencil (e : String × SortDirection) : Stencil :=
  [.gap, .text ("." ++ e.1 ++ " " ++ e.2.label)]

/-- The statement. -/
def Plan.stencil (s : Select) (p : Plan) : Stencil :=
  headStencil s.config.separator p.table p.joins ++
    Stencil.behind " WHERE " " AND " (p.conditions.map fun c => c.2.stencil c.1) ++
    Stencil.behind " ORDER BY " ", " (p.ordering.map orderStencil) ++
    [.text (countClause .limit (s.limit.map toString) ++
      countClause .offset (s.offset.map toString))]

/-- A SELECT whose table goes by a text. -/
def aliased (s : Select) (a : String) : Select := { s with tableAlias := .text a }

/-- What an entry of the ordering is made of: the written key of a request, and its direction. -/
def Orders (objects : Objects) (t : Table) (e : Value × SortDirection)
    (o : String × SortDirection) : Prop :=
  t.written objects e.1 = .ok o.1 ∧ e.2 = o.2

/-- The plan of a SELECT, whatever its alias is. -/
structure Planned (s : Select) (ctx : Context) (feeds : Feeds) (p : Plan) : Prop where
  table : ctx.registry.table ctx.objects s.entity = .ok p.table
  joins : List.Forall₂ (JoinRequest.Leads ctx s.config p.table) s.joins p.joins
  conditions : ∃ os, (Where.outlines ctx.objects s.conditions feeds).result = .ok os ∧
    List.Forall₂ (Where.Stands ctx.objects p.table) os p.conditions
  ordering : List.Forall₂ (Orders ctx.objects p.table) (Assoc.values s.ordering) p.ordering

variable {s : Select} {ctx : Context} {feeds : Feeds} {t : Table}

theorem fill_head (a separator : String) (t : Table) (joins : List Join.Parts) :
    (headStencil separator t joins).fill a = head t a separator
      (joins.map fun p => ⟨p.columns separator, p.clause a⟩) := by
  have hcolumns : (t.columns.map (columnStencil separator)).map (Stencil.fill a) =
      project t a a separator := by
    simp [project, columnStencil, String.append_assoc]
  have hjoined (l : List String) : (l.map fun s => [Span.text s]).map (Stencil.fill a) = l := by
    simp [Function.comp_def]
  have hclauses : (joins.map (·.stencil)).map (Stencil.fill a) = joins.map (·.clause a) := by
    simp [Join.Parts.fill_stencil]
  rw [headStencil, head_parts, Stencil.fill_separated, List.map_cons, hclauses]
  simp only [Stencil.fill_append, Stencil.fill_text, Stencil.fill_gap, Stencil.fill_nil,
    Stencil.fill_separated, List.map_append, hcolumns, hjoined, String.append_assoc,
    String.append_empty, commaSeparated]

/-- Conditions behind the statement up to them. -/
theorem withWhere_fill (a text : String) {fs : List Fragment} {cs : List (String × Form)}
    (h : fs.map (·.condition) = cs.map fun c => (c.2.stencil c.1).fill a) :
    Statement.withWhere text (Where.joined fs) =
      text ++ (Stencil.behind " WHERE " " AND " (cs.map fun c => c.2.stencil c.1)).fill a := by
  have hquery : (Where.joined fs).query =
      " AND ".intercalate ((cs.map fun c => c.2.stencil c.1).map (Stencil.fill a)) := by
    rw [Where.joined, h, List.map_map]
    rfl
  rw [Stencil.fill_behind, ← hquery, Statement.withWhere]
  cases cs with
  | nil => simp [hquery]
  | cons c cs =>
    have hfs : fs ≠ [] := by
      rintro rfl
      cases h
    have hne : (Where.joined fs).query ≠ "" := by
      intro hempty
      obtain ⟨f, rfl, hf⟩ := Where.joined_eq_empty hempty hfs
      rw [List.map_cons, List.map_cons, hf] at h
      exact Form.fill_stencil_ne_empty a c.1 c.2 (List.head_eq_of_cons_eq h).symm
    rw [if_neg hne, String.append_assoc]
    rfl

/-- An entry of the ordering is written behind the alias, if its key can be written. -/
theorem orderEntry_eq_ok {a : String} {key : Value} {direction : SortDirection} {text : String} :
    orderEntry ctx.objects t a (key, .ok direction.label) = .ok text ↔
      ∃ name, t.written ctx.objects key = .ok name ∧
        (orderStencil (name, direction)).fill a = text := by
  have hentry : orderEntry ctx.objects t a (key, .ok direction.label) = (do
      let name ← t.written ctx.objects key
      return (orderStencil (name, direction)).fill a) := by
    simp only [orderEntry, Table.written, orderStencil, bind_assoc, ok_bind, Stencil.fill_gap,
      Stencil.fill_text, Stencil.fill_nil, String.append_assoc, String.append_empty]
  rw [hentry, bind_eq_ok]
  simp [pure, Except.pure]

theorem orderClause_fill (a : String) {es : List (Value × SortDirection)}
    {os : List (String × SortDirection)} (h : List.Forall₂ (Orders ctx.objects t) es os) :
    orderClause ctx.objects t a (es.map fun e => (e.1, .ok e.2.label)) =
      .ok ((Stencil.behind " ORDER BY " ", " (os.map orderStencil)).fill a) := by
  have hentries : (es.map fun e => (e.1, .ok e.2.label)).mapM (orderEntry ctx.objects t a) =
      .ok ((os.map orderStencil).map (Stencil.fill a)) := by
    apply mapM_eq_ok.mpr
    rw [List.forall₂_map_left_iff, List.map_map, List.forall₂_map_right_iff]
    refine h.imp ?_
    rintro ⟨key, direction⟩ ⟨name, _⟩ ⟨hname, rfl⟩
    exact orderEntry_eq_ok.mpr ⟨name, hname, rfl⟩
  rw [Stencil.fill_behind]
  cases h with
  | nil => rfl
  | cons =>
    change (do return " ORDER BY " ++ commaSeparated (← (List.map _ (_ :: _)).mapM _)) = _
    rw [hentries]
    rfl

theorem exists_orders {a : String} {es : List (Value × SortDirection)} {text : String}
    (h : orderClause ctx.objects t a (es.map fun e => (e.1, .ok e.2.label)) = .ok text) :
    ∃ os, List.Forall₂ (Orders ctx.objects t) es os := by
  apply exists_forall₂_iff.mpr
  have hentries : ∃ texts, (es.map fun e => (e.1, .ok e.2.label)).mapM
      (orderEntry ctx.objects t a) = .ok texts := by
    cases es with
    | nil => exact ⟨[], rfl⟩
    | cons e es =>
      obtain ⟨texts, htexts, -⟩ := bind_eq_ok.mp h
      exact ⟨texts, htexts⟩
  intro e he
  obtain ⟨text, htext⟩ := exists_mapM_eq_ok.mp hentries _ (List.mem_map_of_mem he)
  obtain ⟨name, hname, -⟩ := orderEntry_eq_ok.mp htext
  exact ⟨(name, e.2), hname, rfl⟩

theorem given_aliased (s : Select) (t : Table) {a : String} (ha : a ≠ "") :
    (s.aliased a).given t = .text a :=
  if_pos (Value.truthy_text ha)

/-- What a SELECT that succeeds under one alias is made of does not depend on the alias. -/
theorem exists_planned (hops : ctx.operators = Operators.builtin) {a : String} {st : Statement}
    (ha : a ≠ "") (h : ((s.aliased a).build ctx feeds).result = .ok st) :
    ∃ p, s.Planned ctx feeds p ∧ ∀ b, b ≠ "" → ∃ c, (Where.compile ctx s.config p.table
      s.conditions .tableName (.text b) feeds).result = .ok c ∧ c.params = p.params := by
  obtain ⟨q, hq⟩ := exists_built h
  have hgiven : q.given = .text a := hq.given.trans (given_aliased s q.table ha)
  have hcompiled : (Where.compile ctx s.config q.table s.conditions .tableName (.text a)
      feeds).result = .ok q.conditions := hgiven ▸ hq.conditions
  have hleads : ∃ ps, List.Forall₂ (JoinRequest.Leads ctx s.config q.table) s.joins ps := by
    apply exists_forall₂_iff.mpr
    intro request hrequest
    obtain ⟨j, hj⟩ := exists_mapM_eq_ok.mp ⟨q.joins, hq.joins⟩ request hrequest
    exact Join.exists_leads hj
  obtain ⟨ps, hps⟩ := hleads
  obtain ⟨es, hes⟩ := exists_orders hq.ordering
  obtain ⟨os, hos, -, lead, fs, -, -, halong⟩ :=
    Where.mirrored_compile hops s.conditions .tableName (.text a) feeds _ hcompiled
  obtain ⟨cs, hcs⟩ := Where.exists_stands halong
  refine ⟨⟨q.table, ps, cs, es, q.conditions.params⟩, ⟨hq.table, hps, ⟨os, hos, hcs⟩, hes⟩, ?_⟩
  intro b hb
  obtain ⟨c, hc, -, hparams⟩ :=
    Where.alike_compile hops s.conditions (.text a) hb feeds _ hcompiled
  exact ⟨c, hc, hparams⟩

/-- A SELECT whose plan is known is built as its stencil says. -/
theorem build_planned (hops : ctx.operators = Operators.builtin) {p : Plan}
    (hp : s.Planned ctx feeds p) {b : String} (hb : b ≠ "") {c : Statement}
    (hc : (Where.compile ctx s.config p.table s.conditions .tableName (.text b) feeds).result =
      .ok c) :
    ((s.aliased b).build ctx feeds).result = .ok ⟨(p.stencil s).fill b, c.params⟩ := by
  obtain ⟨os, hos, hcs⟩ := hp.conditions
  obtain ⟨os', hos', -, lead, fs, hlead, rfl, halong⟩ :=
    Where.mirrored_compile hops s.conditions .tableName (.text b) feeds _ hc
  obtain rfl : os' = os := Except.ok.inj (hos'.symm.trans hos)
  have hlead : os' ≠ [] → lead = b ++ "." := by
    intro hne
    have hqualifier := hlead hne
    rw [Where.qualifier, Where.aliasOf_text ctx.objects p.table hb] at hqualifier
    exact (Except.ok.inj hqualifier).symm
  have hconditions := Where.conditions_fill halong hlead hcs
  obtain ⟨-, -, hbuilt⟩ := build_expanded (s := s.aliased b) feeds hp.table
    (Where.aliasOf_text ctx.objects p.table hb) hp.joins
  rw [given_aliased s p.table hb] at hbuilt
  rw [hbuilt _ _ hc (orderClause_fill b hp.ordering), withWhere_fill b _ hconditions,
    ← fill_head]
  simp only [Plan.stencil, Stencil.fill_append, Stencil.fill_text, Stencil.fill_nil,
    String.append_assoc, String.append_empty]
  rfl

/-- Without an alias the table goes by its own name, as it does if that is its alias. -/
theorem build_ownName (hnull : s.tableAlias = .null)
    (ht : ctx.registry.table ctx.objects s.entity = .ok t) (hname : t.name ≠ "") :
    s.build ctx = (s.aliased t.name).build ctx := by
  have hunset : Where.aliasOf ctx.objects t s.tableAlias = .ok t.name := by
    rw [hnull]
    rfl
  have hgiven : s.given t = (s.aliased t.name).given t := by
    rw [given_aliased s t hname, given, hnull]
    rfl
  funext feeds
  rw [build_joins feeds ht hunset, hgiven]
  exact (build_joins (s := s.aliased t.name) feeds ht
    (Where.aliasOf_text ctx.objects t hname)).symm

/-- Where the alias of a SELECT stands. With the built-in operators, whether the statement can be
built and what it binds do not depend on the alias; and the alias stands between the segments of one
stencil: in front of the columns of the table and of their names, behind the table, on the left of
each join, and in front of the keys of the conditions and of the ordering. A SELECT without an alias
is one with the name of its table. -/
theorem alias_fills (s : Select) (ctx : Context) (feeds : Feeds)
    (hops : ctx.operators = Operators.builtin) :
    let built (a : String) := ((s.aliased a).build ctx feeds).result
    (∀ a, a ≠ "" → s.setAlias ctx.objects (.text a) = .ok (s.aliased a)) ∧
    (∀ a b, a ≠ "" → b ≠ "" → ((∃ st, built a = .ok st) ↔ ∃ st, built b = .ok st)) ∧
    (∀ a st, a ≠ "" → built a = .ok st → ∃ p, s.Planned ctx feeds p ∧
      ∀ b, b ≠ "" → built b = .ok ⟨b.intercalate (p.stencil s).segments, p.params⟩) ∧
    (s.tableAlias = .null → ∀ calls t, ctx.registry = Registry.after ∅ calls →
      ctx.registry.table ctx.objects s.entity = .ok t →
      s.setAlias ctx.objects (.text t.name) = .ok (s.aliased t.name) ∧
        s.build ctx = (s.aliased t.name).build ctx) := by
  intro built
  have hset (a : String) (ha : a ≠ "") :
      s.setAlias ctx.objects (.text a) = .ok (s.aliased a) := by
    rw [setAlias, Value.truth_text ha]
    rfl
  have hfilled (a : String) (st : Statement) (ha : a ≠ "") (h : built a = .ok st) :
      ∃ p, s.Planned ctx feeds p ∧
        ∀ b, b ≠ "" → built b = .ok ⟨b.intercalate (p.stencil s).segments, p.params⟩ := by
    obtain ⟨p, hp, hcompiled⟩ := exists_planned hops ha h
    refine ⟨p, hp, fun b hb => ?_⟩
    obtain ⟨c, hc, hparams⟩ := hcompiled b hb
    rw [Stencil.intercalate_segments, ← hparams]
    exact build_planned hops hp hb hc
  have hsucceeds (a b : String) (ha : a ≠ "") (hb : b ≠ "") (h : ∃ st, built a = .ok st) :
      ∃ st, built b = .ok st := by
    obtain ⟨st, hst⟩ := h
    obtain ⟨p, -, hp⟩ := hfilled a st ha hst
    exact ⟨_, hp b hb⟩
  refine ⟨hset, fun a b ha hb => ⟨hsucceeds a b ha hb, hsucceeds b a hb ha⟩, hfilled, ?_⟩
  intro hnull calls t hr ht
  have hsound : ctx.registry.Sound := hr ▸ Registry.Sound.empty.after calls
  have hname : t.name ≠ "" := by
    intro hempty
    have hwritten := (hsound.table ht).name_written
    rw [hempty] at hwritten
    exact hwritten rfl
  exact ⟨hset t.name hname, build_ownName hnull ht hname⟩

/-- Users by their keys, among none of the addresses, with their homes. -/
def homesAmongNone : Select :=
  { joinedUsers homeRequests (.dict [(.text "id", .int 3),
      (.text "address_id", .dict [(.text "$in", .list [])])]) with
    ordering := [(.atom (.text "id"), .text "id", .descending)], limit := some 5 }

set_option maxRecDepth 8000 in
theorem alias_fills_homes :
    (∃ st, ((homesAmongNone.aliased "u").build (userContext "home") []).result = .ok st ∧
      st.query = "SELECT u.id AS u_id, u.address_id AS u_address_id, " ++
        "addresses.id AS home_id, addresses.id AS home_id FROM user u " ++
        "LEFT JOIN addresses ON u.address_id = addresses.id " ++
        "INNER JOIN addresses ON u.address_id = addresses.id AND addresses.id > 0 " ++
        "WHERE u.id = ? AND 1 = 0 ORDER BY u.id DESC LIMIT 5") ∧
    (∃ p, homesAmongNone.Planned (userContext "home") [] p ∧
      ∀ b, b ≠ "" → ((homesAmongNone.aliased b).build (userContext "home") []).result =
        .ok ⟨b.intercalate (p.stencil homesAmongNone).segments, p.params⟩) ∧
    homesAmongNone.build (userContext "home") =
      (homesAmongNone.aliased "user").build (userContext "home") := by
  have h : ((homesAmongNone.aliased "u").build (userContext "home") []).result = .ok _ := rfl
  obtain ⟨-, -, hfilled, hown⟩ := alias_fills homesAmongNone (userContext "home") [] rfl
  have hunset := hown rfl (userCalls "home") (userTable "home") rfl rfl
  exact ⟨⟨_, h, rfl⟩, hfilled "u" _ (by decide) h, hunset.2⟩

end Select

end RecordSql
