import RecordSql.Proofs.Statement.Plain
import RecordSql.Proofs.Views

/-! Balance: a statement binds as many values as its text has placeholders, if every handler that
made one of its conditions does so and no text of the caller brings placeholders along. -/

namespace RecordSql

open RecordSql.Action RecordSql.Text

def Fragment.Balanced (f : Fragment) : Prop := marks f.condition = f.params.length

def Statement.Balanced (st : Statement) : Prop := marks st.query = st.params.length

/-- A handler that binds as many values as its conditions have placeholders, given the name of a
column without any. -/
def Handler.Balanced (h : Handler) : Prop :=
  ∀ objects column operand bind,
    Text.Plain column → Yields Fragment.Balanced (h objects column operand bind)

def Operators.Balanced (ops : Operators) : Prop := ∀ e ∈ ops, e.2.Balanced

/-! ### Handlers -/

namespace Handler

theorem balanced_comparison {symbol : String} (hs : Text.Plain symbol) :
    (comparison symbol).Balanced := by
  intro objects column operand bind hc
  refine .bind (.any _) fun v _ => .pure ?_
  simp +decide [Fragment.Balanced, hc.marks, hs.marks]

theorem balanced_like : like.Balanced := by
  intro objects column operand bind hc
  refine .pure ?_
  simp +decide [Fragment.Balanced, hc.marks]

theorem balanced_null : null.Balanced := by
  intro objects column operand bind hc
  refine .bind (.any _) fun isNull _ => .pure ?_
  cases isNull <;> simp +decide [Fragment.Balanced, hc.marks]

theorem balanced_member : member.Balanced := by
  intro objects column operand bind hc
  unfold member
  split
  · exact .fail _
  · exact .fail _
  · refine .bind (.any _) fun _ _ => .bind (.any _) fun _ _ => .ite (fun _ => ?_) fun _ => .fail _
    have hin : Text.Plain " IN (" := by decide
    have hend : Text.Plain ")" := by decide
    refine .bind (.any _) fun items _ => .ite (fun _ => .pure ?_) fun _ => ?_
    · simp +decide [Fragment.Balanced]
    refine .bind (.lifted _) fun params hp => .pure ?_
    simp [Fragment.Balanced, hc.marks, hin.marks, hend.marks, marks_placeholders,
      (mapM_eq_ok.mp hp).length_eq]

end Handler

namespace Operators

theorem balanced_builtin : builtin.Balanced := by
  simp +decide only [Balanced, builtin, List.forall_mem_cons, Handler.balanced_comparison,
    Handler.balanced_like, Handler.balanced_null, Handler.balanced_member]
  simp

theorem Balanced.handler {objects : Objects} {ops : Operators} (hops : ops.Balanced) {token : Value}
    {h : Handler} (hh : ops.handler objects token = .ok h) : h.Balanced := by
  obtain ⟨s, -, hs⟩ := handler_eq_ok hh
  exact hops (s, h) (Assoc.mem_of_get? hs)

end Operators

/-! ### Conditions -/

/-- Conditions are appended along with what they bind. -/
theorem Statement.Balanced.withWhere {text : String} (params : List Value)
    (ht : marks text = params.length) {conditions : Statement} (hc : conditions.Balanced) :
    marks (withWhere text conditions) = (params ++ conditions.params).length := by
  have hw : Text.Plain " WHERE " := by decide
  rw [List.length_append, ← ht, ← hc, Statement.withWhere]
  split
  · rw [‹conditions.query = ""›]
    rfl
  · rw [marks_append, marks_append, hw.marks, Nat.add_zero]

namespace Where

variable {ctx : Context} {config : Config} {t : Table}

theorem balanced_joined {l : List Fragment} (hl : ∀ f ∈ l, f.Balanced) : (joined l).Balanced :=
  marks_intercalate (by decide) hl

theorem yields_fragment (hops : ctx.operators.Balanced) (ht : t.Plain) {lead : String}
    (hlead : Text.Plain lead) {entry : Value × Value} (hk : t.PlainKey ctx.objects entry.1) :
    Yields Fragment.Balanced (fragment ctx.objects (reading ctx config) t lead entry) := by
  refine .bind (yields_columnFor _ _ _ _) fun column hc => .bind (.any _) fun condition _ => ?_
  refine .bind (.liftedFault _) fun name hn => ?_
  have href : Text.Plain (lead ++ name) := plain_append.mpr ⟨hlead, ht.columnName hk hc hn⟩
  cases condition with
  | literal v =>
    refine .bind (.any _) fun p _ => .pure ?_
    simp +decide [Fragment.Balanced, href.marks]
  | operator token operand =>
    exact .bind (.lifted _) fun handle hh => hops.handler hh _ _ _ _ href

theorem yields_compile (hops : ctx.operators.Balanced) (ht : t.Plain) {conditions : Value}
    (hc : Where.Plain ctx.objects t conditions) {mode : AliasMode} {tableAlias : Value}
    (ha : ∀ a, aliasOf ctx.objects t tableAlias = .ok a → Text.Plain a) :
    Yields Statement.Balanced (compile ctx config t conditions mode tableAlias) := by
  refine .bind (.any _) fun isTrue _ => .ite (fun _ => .pure rfl) fun _ => ?_
  refine .bind (.lifted _) fun mode' hm => ?_
  cases hm
  refine .bind (.liftedFault _) fun lead hlead => .bind (.liftedFault _) fun entries he => ?_
  exact .bind (.mapM fun entry hmem => yields_fragment hops ht (plain_qualifier ha hlead)
    (hc entries he entry hmem)) fun l hl => .pure (balanced_joined hl)

end Where

/-! ### Statements -/

theorem Insert.marks_text {t : Table} (ht : t.Plain) {columns : List Column}
    (hc : ∀ c ∈ columns, c ∈ t.columns) {params : List (List Value)}
    (hp : ∀ ps ∈ params, ps.length = columns.length) :
    marks (text t columns params.length) = params.flatten.length := by
  have htext : text t columns params.length = "INSERT INTO " ++ t.name ++ "(" ++
      commaSeparated (columns.map (·.name)) ++ ") VALUES " ++
      commaSeparated (List.replicate params.length ("(" ++ placeholders columns.length ++ ")")) :=
    rfl
  have hgroup : marks ("(" ++ placeholders columns.length ++ ")") = columns.length := by
    have hl : Text.Plain "(" := by decide
    have hr : Text.Plain ")" := by decide
    simp [hl.marks, hr.marks, marks_placeholders]
  rw [htext, marks_append, (plain_start ht hc).marks, Nat.zero_add, ← List.map_const',
    ← List.flatMap_id]
  exact marks_intercalate (by decide) fun ps hps => hgroup.trans (hp ps hps).symm

theorem Insert.yields_build {ctx : Context} (i : Insert)
    (hi : ∀ t, ctx.registry.table ctx.objects i.entity = .ok t → t.Plain) :
    Yields Statement.Balanced (i.build ctx) := by
  unfold build
  split
  · exact .fail _
  · exact .fail _
  · rename_i rows _ _
    refine .bind (.lifted _) fun t ht => .bind (.liftedFault _) fun columns hc => ?_
    refine .ite (fun _ => .fail _) fun _ => .bind (.lifted _) fun params hp => ?_
    refine .bind (.any _) fun _ _ => .pure ?_
    have hlen : ∀ ps ∈ params, ps.length = columns.length := by
      intro ps hps
      obtain ⟨row, -, hrow⟩ := exists_of_mem_mapM hp hps
      exact (mapM_eq_ok.mp hrow).length_eq.symm
    rw [Statement.Balanced, (mapM_eq_ok.mp hp).length_eq]
    exact marks_text (hi t ht) (mem_columns hc) hlen

namespace Update

theorem mem_columns {objects : Objects} {t : Table} {source : Value} {supplied : List Value}
    {assigned : List (Column × Value)}
    (h : assignments objects t source supplied = .ok assigned) {e : Column × Value}
    (he : e ∈ assigned) : e.1 ∈ t.columns := by
  obtain ⟨l, hl, h⟩ := bind_eq_ok.mp h
  cases h
  obtain ⟨_, hmem, rfl⟩ := List.mem_filterMap.mp he
  obtain ⟨c, hc, h⟩ := exists_of_mem_mapM hl hmem
  obtain ⟨excluded, -, h⟩ := bind_eq_ok.mp h
  split at h
  · cases h
  · split at h
    · obtain ⟨v, -, h⟩ := bind_eq_ok.mp h
      cases h
      exact hc
    · cases h

theorem marks_set {t : Table} (ht : t.Plain) {assigned : List (Column × Value)}
    (ha : ∀ e ∈ assigned, e.1 ∈ t.columns) :
    marks (commaSeparated (assigned.map fun e => e.1.name ++ " = ?")) =
      (assigned.map (·.2)).length := by
  rw [List.map_eq_flatMap (f := fun e : Column × Value => e.2)]
  refine marks_intercalate (by decide) fun e he => ?_
  rw [marks_append, (ht.columns e.1 (ha e he)).marks]
  rfl

theorem yields_build {ctx : Context} (hops : ctx.operators.Balanced) (u : Update)
    (hu : ∀ t, ctx.registry.table ctx.objects u.entity = .ok t →
      t.Plain ∧ Where.Plain ctx.objects t u.conditions) :
    Yields Statement.Balanced (u.build ctx) := by
  refine .bind (.lifted _) fun t ht => .bind (.any _) fun supplied _ => ?_
  refine .bind (.lifted _) fun assigned ha => .ite (fun _ => .fail _) fun _ => ?_
  obtain ⟨ht, hc⟩ := hu t ht
  have halias := Where.plain_aliasOf_null ctx.objects ht
  refine .bind (Where.yields_compile hops ht hc halias) fun conditions hb => ?_
  refine .bind (.any _) fun _ _ => .pure (Statement.Balanced.withWhere _ ?_ hb)
  have hstart : Text.Plain ("UPDATE " ++ t.name ++ " SET ") := by simp +decide [ht.name]
  rw [marks_append, hstart.marks, marks_set ht fun e => mem_columns ha, Nat.zero_add]

end Update

theorem Delete.yields_build {ctx : Context} (hops : ctx.operators.Balanced) (d : Delete)
    (hd : ∀ t, ctx.registry.table ctx.objects d.entity = .ok t →
      t.Plain ∧ Where.Plain ctx.objects t d.conditions) :
    Yields Statement.Balanced (d.build ctx) := by
  refine .bind (.lifted _) fun t ht => ?_
  obtain ⟨ht, hc⟩ := hd t ht
  have halias := Where.plain_aliasOf_null ctx.objects ht
  refine .bind (Where.yields_compile hops ht hc halias) fun conditions hb => ?_
  have hstart : Text.Plain ("DELETE FROM " ++ t.name) := by simp +decide [ht.name]
  exact .bind (.any _) fun _ _ => .pure (Statement.Balanced.withWhere [] hstart.marks hb)

theorem Select.yields_build {ctx : Context} (hops : ctx.operators.Balanced) (s : Select)
    (hs : ∀ t, ctx.registry.table ctx.objects s.entity = .ok t → t.Plain ∧ s.Plain ctx t) :
    Yields Statement.Balanced (s.build ctx) := by
  refine .bind (.lifted _) fun t ht => ?_
  obtain ⟨ht, hp⟩ := hs t ht
  refine .bind (.liftedFault _) fun isGiven hg => .bind (.liftedFault _) fun tableAlias ha => ?_
  have hgiven := hp.written ht hg
  have halias : Text.Plain tableAlias := hgiven tableAlias ha
  refine .bind (.lifted _) fun joins hj => ?_
  refine .bind (Where.yields_compile hops ht hp.conditions (Where.plain_aliasOf ht hgiven))
    fun conditions hb => .bind (.liftedFault _) fun ordering ho => ?_
  refine .bind (.any _) fun _ _ => .pure ?_
  have hhead := plain_head ht hp halias hj
  have horder := plain_orderClause ht halias hp.ordering ho
  rw [Statement.Balanced, marks_append, marks_append, marks_append, horder.marks,
    (plain_countClause _ _).marks, (plain_countClause _ _).marks]
  exact Statement.Balanced.withWhere [] hhead.marks hb

/-- A statement binds as many values as its text has placeholders. -/
theorem Builder.yields_build {ctx : Context} (hops : ctx.operators.Balanced) {b : Builder}
    (hb : b.Plain ctx) : Yields Statement.Balanced (b.build ctx) := by
  cases b with
  | select s => exact s.yields_build hops hb
  | insert i => exact i.yields_build fun t ht => (hb t ht).1
  | update u => exact u.yields_build hops hb
  | delete d => exact d.yields_build hops hb

end RecordSql
