import RecordSql.Proofs.Statement.Repetition

/-! Conjunction: the predicate of a condition set that is put together from two others. It is theirs
joined by `AND`, with the values and the reports of the first one first, and it is refused as the
first one that is refused. By that a condition set means what its entries mean one by one; the
predicates of single entries are listed at the end. -/

namespace RecordSql

open RecordSql.Action

/-! ### Two condition sets -/

/-- Two predicates joined into one. -/
def Statement.and (st st' : Statement) : Statement :=
  ⟨st.query ++ " AND " ++ st'.query, st.params ++ st'.params⟩

namespace Where

variable {objects : Objects} {r : Reading} {t : Table} {mode : Except Error AliasMode}
  {tableAlias : Value} {feeds : Feeds} {es es' : List (Value × Value)} {serial serial' : Nat}

theorem joined_append {fs gs : List Fragment} (hf : fs ≠ []) (hg : gs ≠ []) :
    joined (fs ++ gs) = (joined fs).and (joined gs) := by
  have hf : fs.map (·.condition) ≠ [] := by simpa using hf
  have hg : gs.map (·.condition) ≠ [] := by simpa using hg
  simp only [joined, Statement.and, List.map_append, List.flatMap_append,
    String.intercalate_append_of_ne_nil hf hg]

theorem joined_singleton (f : Fragment) : joined [f] = ⟨f.condition, f.params⟩ := by
  simp [joined]

/-- The text in front of every column, with the alias mode looked at first. -/
def leading (objects : Objects) (t : Table) (mode : Except Error AliasMode) (tableAlias : Value) :
    Except Error String := do
  (qualifier objects (← mode) t tableAlias).mapError .fault

/-- The lead of conditions that are not empty is found, or refused, before any of them. -/
theorem compileBy_dict (hes : es ≠ []) :
    compileBy objects r t (.dict es serial) mode tableAlias = do
      let lead ← leading objects t mode tableAlias
      return joined (← es.mapM (fragment objects r t lead)) := by
  cases es with
  | nil => contradiction
  | cons e es => cases mode <;> rfl

theorem compileBy_dict_of_lead {lead : String} (hes : es ≠ [])
    (hlead : leading objects t mode tableAlias = .ok lead) :
    compileBy objects r t (.dict es serial) mode tableAlias = do
      return joined (← es.mapM (fragment objects r t lead)) := by
  rw [compileBy_dict hes, hlead]
  rfl

theorem compileBy_dict_of_noLead {e : Error} (hes : es ≠ [])
    (hlead : leading objects t mode tableAlias = .error e) :
    compileBy objects r t (.dict es serial) mode tableAlias = Action.fail e := by
  rw [compileBy_dict hes, hlead]
  rfl

/-- Two condition sets put together are compiled one after the other. -/
theorem compileBy_append (hes : es ≠ []) (hes' : es' ≠ [])
    (serial serial' serial'' : Nat) :
    compileBy objects r t (.dict (es ++ es') serial'') mode tableAlias = do
      let st ← compileBy objects r t (.dict es serial) mode tableAlias
      let st' ← compileBy objects r t (.dict es' serial') mode tableAlias
      return st.and st' := by
  have hboth : es ++ es' ≠ [] := by simp [hes]
  cases hlead : leading objects t mode tableAlias with
  | error e =>
    rw [compileBy_dict_of_noLead hboth hlead, compileBy_dict_of_noLead hes hlead]
    rfl
  | ok lead =>
    rw [compileBy_dict_of_lead hboth hlead, compileBy_dict_of_lead hes hlead,
      compileBy_dict_of_lead hes' hlead]
    obtain ⟨e, es, rfl⟩ := List.exists_cons_of_ne_nil hes
    obtain ⟨e', es', rfl⟩ := List.exists_cons_of_ne_nil hes'
    rw [List.mapM_append]
    simp only [List.mapM_cons, bind_assoc, pure_bind]
    simp only [joined_append, ne_eq, reduceCtorEq, not_false_eq_true]

end Where

/-- Where two condition sets are compiled, what becomes of them put together: all that the first one
comes to if it is refused, and else the refusal of the second one or both predicates, after the
reports of both. -/
structure Where.Conjoined (first second both : Outcome Feeds Statement) : Prop where
  refusedFirst : ∀ e, first.result = .error e → both = first
  refusedSecond : ∀ st e, first.result = .ok st → second.result = .error e →
    both.result = .error e ∧ both.log = first.log ++ second.log
  joined : ∀ st st', first.result = .ok st → second.result = .ok st' →
    both.result = .ok (st.and st') ∧ both.log = first.log ++ second.log

/-- An action after one that leaves the state as it is runs as it would alone. -/
theorem Where.conjoined_of_rests {x y : Action Feeds Statement} {feeds : Feeds}
    (hx : Rests x feeds) : Conjoined (x feeds) (y feeds)
      ((do let st ← x; let st' ← y; return st.and st' : Action Feeds Statement) feeds) := by
  have hstate : (x feeds).state = feeds := hx
  refine ⟨fun e he => ?_, fun st e hst he => ?_, fun st st' hst hst' => ?_⟩
  · rw [bind_run_of_error he, ← he]
  · rw [bind_run_of_ok hst, hstate, bind_run_of_error he]
    exact ⟨rfl, rfl⟩
  · rw [bind_run_of_ok hst, hstate, bind_run_of_ok hst']
    exact ⟨rfl, by simp⟩

/-! ### Single entries -/

/-- The items that an operand consists of: a column can be looked up among them. -/
structure Value.Gathers (objects : Objects) (feeds : Feeds) (operand : Value)
    (items : List Value) : Prop where
  notText : ∀ s, operand ≠ .text s
  notBytes : ∀ bs, operand ≠ .bytes bs
  kind : operand.checkKind objects = .ok ()
  iterable : operand.isIterable objects = .ok true
  elements : (operand.elements objects feeds).result = .ok items

/-- What the built-in operators make of a reference to a column. -/
inductive Condition.Makes (objects : Objects) (feeds : Feeds) (reference : String)
    (bind : Binding) : Condition → Fragment → Prop
  | literal {v p : Value} (hp : bind v = .ok p) :
    Makes objects feeds reference bind (.literal v) ⟨reference ++ " = ?", [p]⟩
  | comparison {token tail : String} {v p : Value} (ht : (token, tail) ∈ Form.symbols)
    (hlike : token ≠ "$like") (hp : bind v = .ok p) :
    Makes objects feeds reference bind (.operator (.text token) v) ⟨reference ++ tail, [p]⟩
  | like (v : Value) :
    Makes objects feeds reference bind (.operator (.text "$like") v)
      ⟨reference ++ " LIKE ?", [v]⟩
  | null {v : Value} {isNull : Bool} (hv : v.truth objects = .ok isNull) :
    Makes objects feeds reference bind (.operator (.text "$null") v)
      ⟨reference ++ (if isNull then " IS NULL" else " IS NOT NULL"), []⟩
  | amongNone {v : Value} (hv : v.Gathers objects feeds []) :
    Makes objects feeds reference bind (.operator (.text "$in") v) ⟨"1 = 0", []⟩
  | among {v : Value} {items params : List Value} (hv : v.Gathers objects feeds items)
    (hne : items ≠ []) (hp : items.mapM bind = .ok params) :
    Makes objects feeds reference bind (.operator (.text "$in") v)
      ⟨reference ++ " IN (" ++ placeholders items.length ++ ")", params⟩

/-- A handler that makes of a column and an operand what is listed for a token, and nothing else. -/
def Handler.MakesFor (h : Handler) (token : String) : Prop :=
  ∀ objects reference operand bind feeds f,
    (h objects reference operand bind feeds).result = .ok f ↔
      Condition.Makes objects feeds reference bind (.operator (.text token) operand) f

namespace Handler

theorem makesFor_comparison {symbol token : String}
    (hmem : (token, " " ++ symbol ++ " ?") ∈ Form.symbols)
    (honly : ∀ tail, (token, tail) ∈ Form.symbols → tail = " " ++ symbol ++ " ?")
    (hlike : token ≠ "$like") (hnull : token ≠ "$null") (hin : token ≠ "$in") :
    (comparison symbol).MakesFor token := by
  intro objects reference operand bind feeds f
  have hrun : (comparison symbol objects reference operand bind feeds).result = .ok f ↔
      ∃ p, bind operand = .ok p ∧ ⟨reference ++ (" " ++ symbol ++ " ?"), [p]⟩ = f := by
    rw [comparison, bind_result_eq_ok]
    simp [String.append_assoc]
  rw [hrun]
  constructor
  · rintro ⟨p, hp, rfl⟩
    exact .comparison hmem hlike hp
  · intro h
    cases h with
    | comparison ht _ hp => exact ⟨_, hp, by rw [honly _ ht]⟩
    | like => contradiction
    | null => contradiction
    | amongNone => contradiction
    | among => contradiction

theorem makesFor_like : like.MakesFor "$like" := by
  intro objects reference operand bind feeds f
  constructor
  · rintro ⟨⟩
    exact .like operand
  · generalize htoken : "$like" = token
    intro h
    cases h with
    | comparison _ hlike => exact absurd htoken.symm hlike
    | like => rfl
    | null | amongNone | among => simp at htoken

theorem makesFor_null : null.MakesFor "$null" := by
  intro objects reference operand bind feeds f
  constructor
  · intro h
    obtain ⟨isNull, hnull, h⟩ := bind_result_eq_ok.mp h
    cases h
    exact .null (mapError_eq_ok.mp hnull)
  · generalize htoken : "$null" = token
    intro h
    cases h with
    | comparison ht => simp [← htoken, Form.symbols] at ht
    | null hv =>
      apply bind_result_eq_ok.mpr
      exact ⟨_, mapError_eq_ok.mpr hv, rfl⟩
    | like | amongNone | among => simp at htoken

/-- The items of an operand that is neither a text nor bytes are gathered first. -/
theorem member_eq_ok {objects : Objects} {reference : String} {operand : Value} {bind : Binding}
    {feeds : Feeds} {f : Fragment} :
    (member objects reference operand bind feeds).result = .ok f ↔
      ∃ items, operand.Gathers objects feeds items ∧
        (items = [] ∧ f = ⟨"1 = 0", []⟩ ∨ items ≠ [] ∧ ∃ params, items.mapM bind = .ok params ∧
          f = ⟨reference ++ " IN (" ++ placeholders items.length ++ ")", params⟩) := by
  constructor
  · intro h
    unfold member at h
    split at h
    · cases h
    · cases h
    · rename_i htext hbytes
      obtain ⟨⟨⟩, hkind, h⟩ := bind_result_eq_ok.mp h
      obtain ⟨isIterable, hiterable, h⟩ := bind_result_eq_ok.mp h
      cases isIterable with
      | false => cases h
      | true =>
        obtain ⟨items, helements, h⟩ := bind_result_eq_ok.mp h
        have hitems : operand.Gathers objects feeds items :=
          ⟨htext, hbytes, mapError_eq_ok.mp hkind, mapError_eq_ok.mp hiterable, helements⟩
        refine ⟨items, hitems, ?_⟩
        cases items with
        | nil =>
          cases h
          exact .inl ⟨rfl, rfl⟩
        | cons v items =>
          obtain ⟨params, hp, h⟩ := bind_result_eq_ok.mp h
          cases h
          exact .inr ⟨by simp, params, hp, rfl⟩
  · rintro ⟨items, hitems, hf⟩
    unfold member
    split
    · exact absurd rfl (hitems.notText _)
    · exact absurd rfl (hitems.notBytes _)
    · rw [bind_result_eq_ok]
      refine ⟨(), mapError_eq_ok.mpr hitems.kind, bind_result_eq_ok.mpr ⟨true, ?_, ?_⟩⟩
      · exact mapError_eq_ok.mpr hitems.iterable
      · rw [if_pos rfl, bind_result_eq_ok]
        refine ⟨items, hitems.elements, ?_⟩
        obtain ⟨rfl, rfl⟩ | ⟨hne, params, hp, rfl⟩ := hf
        · rfl
        · rw [if_neg (by simpa using hne), bind_result_eq_ok]
          exact ⟨params, hp, rfl⟩

theorem makesFor_member : member.MakesFor "$in" := by
  intro objects reference operand bind feeds f
  rw [member_eq_ok]
  constructor
  · rintro ⟨items, hitems, ⟨rfl, rfl⟩ | ⟨hne, params, hp, rfl⟩⟩
    · exact .amongNone hitems
    · exact .among hitems hne hp
  · generalize htoken : "$in" = token
    intro h
    cases h with
    | comparison ht => simp [← htoken, Form.symbols] at ht
    | amongNone hv => exact ⟨[], hv, .inl ⟨rfl, rfl⟩⟩
    | among hv hne hp => exact ⟨_, hv, .inr ⟨hne, _, hp, rfl⟩⟩
    | like | null => simp at htoken

end Handler

theorem Operators.makesFor_builtin : ∀ e ∈ builtin, e.2.MakesFor e.1 := by
  have hc {symbol token : String} (hmem : (token, " " ++ symbol ++ " ?") ∈ Form.symbols)
      (honly : ∀ tail, (token, tail) ∈ Form.symbols → tail = " " ++ symbol ++ " ?")
      (h : token ≠ "$like" ∧ token ≠ "$null" ∧ token ≠ "$in") :
      (Handler.comparison symbol).MakesFor token :=
    Handler.makesFor_comparison hmem honly h.1 h.2.1 h.2.2
  simp only [builtin, List.forall_mem_cons]
  refine ⟨hc ?_ ?_ ?_, hc ?_ ?_ ?_, hc ?_ ?_ ?_, hc ?_ ?_ ?_, hc ?_ ?_ ?_, hc ?_ ?_ ?_,
    Handler.makesFor_like, Handler.makesFor_null, Handler.makesFor_member, ?_⟩
  all_goals simp [Form.symbols]

/-- An operator that something is listed for has a built-in handler. -/
theorem Condition.Makes.exists_handler {objects : Objects} {feeds : Feeds} {reference : String}
    {bind : Binding} {token operand : Value} {f : Fragment}
    (h : Makes objects feeds reference bind (.operator token operand) f) :
    ∃ s handle, token = .text s ∧ (s, handle) ∈ Operators.builtin ∧
      Operators.builtin.handler objects token = .ok handle := by
  cases h with
  | @comparison token tail _ _ ht =>
    have htoken : token ∈ Assoc.keys Form.symbols := List.mem_map_of_mem ht
    simp only [Form.symbols, Assoc.keys, List.map_cons, List.map_nil, List.mem_cons,
      List.not_mem_nil, or_false] at htoken
    obtain rfl | rfl | rfl | rfl | rfl | rfl | rfl := htoken
    all_goals exact ⟨_, _, rfl, by simp [Operators.builtin], rfl⟩
  | like => exact ⟨"$like", Handler.like, rfl, by simp [Operators.builtin], rfl⟩
  | null => exact ⟨"$null", Handler.null, rfl, by simp [Operators.builtin], rfl⟩
  | amongNone => exact ⟨"$in", Handler.member, rfl, by simp [Operators.builtin], rfl⟩
  | among => exact ⟨"$in", Handler.member, rfl, by simp [Operators.builtin], rfl⟩

namespace Condition

/-- The predicate that a condition makes of a reference to a column, by the handlers of
operators. -/
def make (objects : Objects) (handler : Value → Except Error Handler) (reference : String)
    (bind : Binding) : Condition → Action Feeds Fragment
  | .literal v => do return ⟨reference ++ " = ?", [← bind v]⟩
  | .operator token operand => do (← handler token) objects reference operand bind

theorem make_eq_ok {objects : Objects} {handler : Value → Except Error Handler}
    {reference : String} {bind : Binding} {condition : Condition} {feeds : Feeds} {f : Fragment}
    (hh : handler = Operators.builtin.handler objects) :
    (condition.make objects handler reference bind feeds).result = .ok f ↔
      Makes objects feeds reference bind condition f := by
  subst hh
  cases condition with
  | literal v =>
    rw [make, bind_result_eq_ok]
    constructor
    · rintro ⟨p, hp, h⟩
      cases h
      exact .literal hp
    · intro h
      cases h with
      | @literal _ p hp => exact ⟨p, hp, rfl⟩
  | operator token operand =>
    rw [make, bind_result_eq_ok]
    constructor
    · rintro ⟨handle, hhandle, h⟩
      obtain ⟨s, rfl, hs⟩ := Operators.handler_eq_ok hhandle
      exact (Operators.makesFor_builtin _ (Assoc.mem_of_get? hs) _ _ _ _ _ _).mp h
    · intro h
      obtain ⟨s, handle, rfl, hmem, hhandle⟩ := h.exists_handler
      exact ⟨handle, hhandle, (Operators.makesFor_builtin _ hmem _ _ _ _ _ _).mpr h⟩

end Condition

namespace Where

/-- The text in front of columns in an alias mode: nothing, or the alias of the table with a dot,
which is the name of the table unless one is given. -/
inductive Leads (objects : Objects) (t : Table) (tableAlias : Value) : AliasMode → String → Prop
  | none : Leads objects t tableAlias .none ""
  | tableName (h : tableAlias.truth objects = .ok false) :
    Leads objects t tableAlias .tableName (t.name ++ ".")
  | given {s : String} (h : tableAlias.truth objects = .ok true)
    (hs : tableAlias.written objects = .ok s) : Leads objects t tableAlias .tableName (s ++ ".")

/-- What a key refers to: the column under it, or the key itself as it is written, if no column is
under it and the reading is lenient. -/
inductive Refers (objects : Objects) (r : Reading) (t : Table) (key : Value) :
    Option Column → String → Prop
  | column {c : Column} (h : t.column? objects key = .ok (some c)) :
    Refers objects r t key (some c) c.name
  | verbatim {s : String} (h : t.column? objects key = .ok none) (hr : r.strict = .ok false)
    (hs : key.written objects = .ok s) : Refers objects r t key none s

/-- The predicate of one entry behind a lead: what the condition of its value makes of what its key
refers to. -/
def Predicates (objects : Objects) (r : Reading) (t : Table) (feeds : Feeds) (lead : String)
    (entry : Value × Value) (f : Fragment) : Prop :=
  ∃ column name condition, Refers objects r t entry.1 column name ∧
    (Condition.ofValue objects r.strict entry.1 entry.2 feeds).result = .ok condition ∧
    Condition.Makes objects feeds (lead ++ name) (Column.stored objects column) condition f

section

variable {objects : Objects} {r : Reading} {t : Table} {mode : Except Error AliasMode}
  {tableAlias : Value} {feeds : Feeds} {entry : Value × Value} {f : Fragment}

theorem leading_eq_ok {lead : String} :
    leading objects t mode tableAlias = .ok lead ↔
      ∃ m, mode = .ok m ∧ Leads objects t tableAlias m lead := by
  rw [leading, bind_eq_ok]
  refine exists_congr fun m => and_congr_right fun _ => ?_
  rw [mapError_eq_ok]
  cases m with
  | none =>
    constructor
    · rintro ⟨⟩
      exact .none
    · rintro ⟨⟩
      rfl
  | tableName =>
    rw [qualifier, map_eq_ok, aliasOf]
    constructor
    · rintro ⟨s, hs, rfl⟩
      obtain ⟨isGiven, htruth, hs⟩ := bind_eq_ok.mp hs
      cases isGiven with
      | false =>
        cases hs
        exact .tableName htruth
      | true => exact .given htruth hs
    · intro h
      cases h with
      | tableName htruth => exact ⟨t.name, by rw [htruth]; rfl, rfl⟩
      | @given s htruth hs => exact ⟨s, by rw [htruth]; exact hs, rfl⟩

theorem refers_iff {key : Value} {column : Option Column} {name : String} :
    Refers objects r t key column name ↔
      (columnFor objects r t key feeds).result = .ok column ∧
        columnName objects column key = .ok name := by
  constructor
  · intro h
    cases h with
    | column h =>
      refine ⟨?_, rfl⟩
      rw [columnFor, liftM_fault_bind_run, h]
      rfl
    | verbatim h hr hs =>
      refine ⟨?_, hs⟩
      rw [columnFor, liftM_fault_bind_run, h]
      dsimp only
      rw [liftM_fault_bind_run, hr]
      rfl
  · rintro ⟨hcolumn, hname⟩
    obtain ⟨sought, hsought, hcolumn⟩ := bind_result_eq_ok.mp hcolumn
    have hsought := mapError_eq_ok.mp hsought
    cases sought with
    | some c =>
      cases hcolumn
      cases hname
      exact .column hsought
    | none =>
      obtain ⟨strict, hstrict, hcolumn⟩ := bind_result_eq_ok.mp hcolumn
      cases strict with
      | true => cases hcolumn
      | false =>
        cases hcolumn
        exact .verbatim hsought (mapError_eq_ok.mp hstrict) hname

/-- The predicate of an entry is made by its condition, once its column is known. -/
theorem fragment_eq (lead : String) :
    fragment objects r t lead entry = (do
      let column ← columnFor objects r t entry.1
      let condition ← Condition.ofValue objects r.strict entry.1 entry.2
      let name ← columnName objects column entry.1
      condition.make objects r.handler (lead ++ name) (Column.stored objects column)) :=
  rfl

theorem fragment_eq_ok (hr : r.handler = Operators.builtin.handler objects) {lead : String} :
    (fragment objects r t lead entry feeds).result = .ok f ↔
      Predicates objects r t feeds lead entry f := by
  have hcolumnState : (columnFor objects r t entry.1 feeds).state = feeds :=
    (reports_columnFor objects r t entry.1 feeds).1
  have hvalueState : (Condition.ofValue objects r.strict entry.1 entry.2 feeds).state = feeds :=
    (Condition.reports_ofValue objects r.strict entry.1 entry.2 feeds).1
  rw [fragment_eq, bind_result_eq_ok, hcolumnState]
  constructor
  · rintro ⟨column, hcolumn, h⟩
    obtain ⟨condition, hcondition, h⟩ := bind_result_eq_ok.mp h
    rw [hvalueState] at h
    obtain ⟨name, hname, hmade⟩ := bind_result_eq_ok.mp h
    have hrefers : Refers objects r t entry.1 column name :=
      refers_iff.mpr ⟨hcolumn, mapError_eq_ok.mp hname⟩
    exact ⟨column, name, condition, hrefers, hcondition, (Condition.make_eq_ok hr).mp hmade⟩
  · rintro ⟨column, name, condition, hrefers, hcondition, hmakes⟩
    obtain ⟨hcolumn, hname⟩ := refers_iff.mp hrefers
    refine ⟨column, hcolumn, bind_result_eq_ok.mpr ⟨condition, hcondition, ?_⟩⟩
    rw [hvalueState]
    apply bind_result_eq_ok.mpr
    exact ⟨name, mapError_eq_ok.mpr hname, (Condition.make_eq_ok hr).mpr hmakes⟩

/-- A condition set of one entry is compiled to the predicate of that entry, behind its lead. -/
theorem compileBy_singleton (hr : r.handler = Operators.builtin.handler objects) {serial : Nat}
    {st : Statement} :
    (compileBy objects r t (.dict [entry] serial) mode tableAlias feeds).result = .ok st ↔
      ∃ m lead, mode = .ok m ∧ Leads objects t tableAlias m lead ∧
        Predicates objects r t feeds lead entry ⟨st.query, st.params⟩ := by
  rw [compileBy_dict (by simp), bind_result_eq_ok]
  constructor
  · rintro ⟨lead, hlead, h⟩
    obtain ⟨m, hm, hleads⟩ := leading_eq_ok.mp hlead
    obtain ⟨fs, hfs, h⟩ := bind_result_eq_ok.mp h
    cases h
    rw [List.mapM_cons, List.mapM_nil] at hfs
    obtain ⟨f, hf, hfs⟩ := bind_result_eq_ok.mp hfs
    cases hfs
    refine ⟨m, lead, hm, hleads, ?_⟩
    rw [joined_singleton]
    exact (fragment_eq_ok hr).mp hf
  · rintro ⟨m, lead, hm, hleads, hf⟩
    refine ⟨lead, leading_eq_ok.mpr ⟨m, hm, hleads⟩, ?_⟩
    have hf := (fragment_eq_ok hr).mpr hf
    apply bind_result_eq_ok.mpr
    refine ⟨[⟨st.query, st.params⟩], ?_, by rw [joined_singleton]; rfl⟩
    rw [List.mapM_cons, List.mapM_nil]
    exact bind_result_eq_ok.mpr ⟨_, hf, rfl⟩

end

/-- A condition set that is put together from two others is their conjunction, whatever the
operators are, if the operands of the first one can be gone through again; with the built-in
operators, all steady operands can. With these, a single entry has the predicates that are listed
for it, and no others: it is refused where there is none. -/
theorem compileBy_conjoins (objects : Objects) (r : Reading) (t : Table)
    (mode : Except Error AliasMode) (tableAlias : Value) (feeds : Feeds) :
    let compiled conditions := compileBy objects r t conditions mode tableAlias feeds
    (∀ es es' serial serial' serial'', es ≠ [] → es' ≠ [] →
      (∀ entry ∈ es, Reiterable objects r feeds entry) →
      Conjoined (compiled (.dict es serial)) (compiled (.dict es' serial'))
        (compiled (.dict (es ++ es') serial''))) ∧
    (r.handler = Operators.builtin.handler objects →
      (∀ entry, EntrySteady objects feeds entry → Reiterable objects r feeds entry) ∧
      ∀ entry serial st, (compiled (.dict [entry] serial)).result = .ok st ↔
        ∃ m lead, mode = .ok m ∧ Leads objects t tableAlias m lead ∧
          Predicates objects r t feeds lead entry ⟨st.query, st.params⟩) := by
  intro compiled
  refine ⟨fun es es' serial serial' serial'' hes hes' h => ?_, fun hr => ⟨?_, ?_⟩⟩
  · have hrests : Rests (compileBy objects r t (.dict es serial) mode tableAlias) feeds := by
      apply rests_compileBy
      intro entries hentries
      cases hentries
      exact h
    dsimp only [compiled]
    rw [compileBy_append hes hes' serial serial' serial'']
    exact conjoined_of_rests hrests
  · exact fun entry hentry => hentry.reiterable hr
  · exact fun entry serial st => compileBy_singleton hr

/-- Pets of an age, which is not known of pets, and with one of two keys or with none. -/
theorem compileBy_conjoins_pets :
    let compiled conditions :=
      compileBy noObjects (reading petContext .usual) petTable conditions (.ok .tableName) .null []
    let among (l : List Value) : Value × Value := (.text "id", .dict [(.text "$in", .list l)])
    (compiled (.dict [(.text "age", .int 3), among [.int 1, .int 2]])).result =
        .ok ⟨"pets.age = ? AND pets.pet_id IN (?, ?)", [.int 3, .int 1, .int 2]⟩ ∧
      (compiled (.dict [(.text "age", .int 3), among [.int 1, .int 2]])).log =
        [.verbatimKey (.text "age") "pets"] ∧
      (compiled (.dict [among []])).result = .ok ⟨"1 = 0", []⟩ := by
  intro compiled among
  obtain ⟨happend, hsingle⟩ := compileBy_conjoins noObjects (reading petContext .usual) petTable
    (.ok .tableName) .null []
  obtain ⟨hsteady, hentry⟩ := hsingle rfl
  have hboth := happend [(.text "age", .int 3)] [among [.int 1, .int 2]] 0 0 0 (by simp) (by simp)
    (by simpa using hsteady (.text "age", .int 3) nofun)
  obtain ⟨hresult, hlog⟩ := hboth.joined ⟨"pets.age = ?", [.int 3]⟩
    ⟨"pets.pet_id IN (?, ?)", [.int 1, .int 2]⟩ rfl rfl
  refine ⟨hresult, hlog, (hentry (among []) 0 ⟨"1 = 0", []⟩).mpr ?_⟩
  have hnone : (Value.list []).Gathers noObjects [] [] := ⟨nofun, nofun, rfl, rfl, rfl⟩
  have hcolumn : Refers noObjects (reading petContext .usual) petTable (.text "id")
      (some ⟨"id", "pet_id", none, .bool false, .bool true⟩) "pet_id" := .column rfl
  exact ⟨.tableName, "pets.", rfl, .tableName rfl, _, _, _, hcolumn, rfl, .amongNone hnone⟩

end Where

end RecordSql
