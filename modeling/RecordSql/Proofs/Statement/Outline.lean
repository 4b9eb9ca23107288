import RecordSql.Builder
import RecordSql.Proofs.Refinement
import RecordSql.Proofs.Views

/-! Outlines: what a condition set says besides the values that it compares with. The conditions of
the built-in operators and what is reported while they are compiled are told by the outline,
whatever these values are. -/

namespace RecordSql

open RecordSql.Action

/-! ### Outlines -/

/-- What of an operand shows in the text of a condition: nothing, its truth where a column is asked
to be null, and the number of its items where a column is looked up among them. -/
inductive Form where
  | literal
  | operator (token : String)
  | null (isNull : Bool)
  | member (count : Nat)
  deriving DecidableEq

namespace Form

/-- What stands behind the column in the conditions that bind one value. -/
def symbols : Assoc String String :=
  [("$eq", " = ?"), ("$gt", " > ?"), ("$lt", " < ?"), ("$gte", " >= ?"), ("$lte", " <= ?"),
    ("$not", " != ?"), ("$like", " LIKE ?")]

/-- The condition on a column. -/
def condition (reference : String) : Form → String
  | literal => reference ++ " = ?"
  | operator token => reference ++ (Assoc.get? symbols token).getD ""
  | null isNull => reference ++ if isNull then " IS NULL" else " IS NOT NULL"
  | member count =>
    if count = 0 then "1 = 0" else reference ++ " IN (" ++ placeholders count ++ ")"

/-- How many values are bound. -/
def bound : Form → Nat
  | literal | operator _ => 1
  | null _ => 0
  | member count => count

end Form

/-- An entry of a condition set without the values in it: its key, its tokens if it has several, and
the form of its condition. -/
structure Outline where
  key : Value
  tokens : List String
  form : Form

namespace Condition

/-- The condition that a value stands for, after its tokens if it has several. -/
def chosen (objects : Objects) : Value → Except Fault (List String × Condition)
  | .literal v _ => .ok ([], literal v)
  | .operator token operand _ => .ok ([], operator token operand)
  | .dict es serial => do
    match ← operatorEntries objects es with
    | [] => return ([], literal (.dict es serial))
    | [(token, operand)] => return ([], operator (.text token) operand)
    | (token, operand) :: others =>
      return (token :: others.map (·.1), operator (.text token) operand)
  | v => .ok ([], literal v)

/-- The form of a condition with a built-in operator. -/
def form (objects : Objects) : Condition → Action Feeds Form
  | literal _ => pure .literal
  | operator (.text "$null") operand => do return .null (← operand.truth objects)
  | operator (.text "$in") operand => do return .member (← operand.elements objects).length
  | operator (.text token) _ => pure (.operator token)
  | operator token _ => Action.fail (.unsupported token)

end Condition

namespace Outline

/-- The outline of an entry. -/
def ofEntry (objects : Objects) (entry : Value × Value) : Action Feeds Outline := do
  let (tokens, condition) ← Condition.chosen objects entry.2
  return ⟨entry.1, tokens, ← condition.form objects⟩

/-- What is reported of an entry: a key that is no property, and more than one token. -/
def notices (t : Table) (column : Option Column) (o : Outline) : List Notice :=
  (if column.isNone then [.verbatimKey o.key t.name] else []) ++
    if o.tokens.isEmpty then [] else [.severalOperators o.key o.tokens]

end Outline

/-- The outlines of a condition set, which is empty if it does not count as true. -/
def Where.outlines (objects : Objects) (conditions : Value) : Action Feeds (List Outline) := do
  if !(← conditions.truth objects) then return []
  else (← conditions.mapping objects).mapM (Outline.ofEntry objects)

/-! ### Reading values -/

namespace Action.Silent

theorem elements (objects : Objects) (v : Value) : Silent (v.elements objects) := by
  cases v <;> exact fun _ => rfl

theorem members (objects : Objects) (v : Value) : Silent (v.members objects) := by
  cases v with
  | feed i =>
    exact .bind .get fun _ => .bind (.modify _) fun _ => .bind (.liftedFault _) fun _ => .pure _
  | _ => exact .bind (elements objects _) fun _ => .bind (.liftedFault _) fun _ => .pure _

theorem supplied (objects : Objects) (source : Value) :
    Silent (Update.supplied objects source) := by
  unfold Update.supplied
  split
  · exact .pure _
  · unfold Source.presentKeys
    split
    · exact .pure _
    · refine .bind (.liftedFault _) fun fields => ?_
      split
      · exact .liftedFault _
      · exact members objects _

end Action.Silent

/-! ### Operators -/

/-- A form tells a condition on a column that nothing is reported of. -/
def Form.Tells (reference : String) (f : Fragment) (log : List Notice) (form : Form) : Prop :=
  f.condition = form.condition reference ∧ f.params.length = form.bound ∧ log = []

/-- A handler whose conditions are told by the form of a condition with a token. -/
def Handler.ToldAs (h : Handler) (token : String) : Prop :=
  ∀ objects reference operand bind,
    Mirrored (Form.Tells reference) (h objects reference operand bind)
      (Condition.form objects (.operator (.text token) operand))

namespace Handler

theorem toldAs_comparison {symbol token : String}
    (hs : Assoc.get? Form.symbols token = some (" " ++ symbol ++ " ?"))
    (hn : token ≠ "$null") (hi : token ≠ "$in") : (comparison symbol).ToldAs token := by
  intro objects reference operand bind
  simp only [Condition.form]
  refine .liftedLeft fun p _ => .pure ⟨?_, rfl, rfl⟩
  simp [Form.condition, hs, String.append_assoc]

theorem toldAs_like : like.ToldAs "$like" := by
  intro objects reference operand bind
  exact .pure ⟨rfl, rfl, rfl⟩

theorem toldAs_null : null.ToldAs "$null" := by
  intro objects reference operand bind
  exact .same (.liftedFault _) fun isNull => .pure ⟨rfl, rfl, rfl⟩

theorem toldAs_member : member.ToldAs "$in" := by
  intro objects reference operand bind
  unfold member
  split
  · exact .fail
  · exact .fail
  · refine .liftedFaultLeft fun _ _ => .liftedFaultLeft fun isIterable _ => ?_
    split
    · refine .same (.elements objects operand) fun items => ?_
      cases items with
      | nil => exact .pure ⟨rfl, rfl, rfl⟩
      | cons v items =>
        exact .liftedLeft fun params hp => .pure ⟨rfl, (mapM_eq_ok.mp hp).length_eq.symm, rfl⟩
    · exact .fail

end Handler

namespace Operators

theorem toldAs_builtin : ∀ e ∈ builtin, e.2.ToldAs e.1 := by
  have hc {symbol token : String}
      (hs : Assoc.get? Form.symbols token = some (" " ++ symbol ++ " ?"))
      (h : token ≠ "$null" ∧ token ≠ "$in") : (Handler.comparison symbol).ToldAs token :=
    Handler.toldAs_comparison hs h.1 h.2
  simp only [builtin, List.forall_mem_cons]
  exact ⟨hc rfl (by decide), hc rfl (by decide), hc rfl (by decide), hc rfl (by decide),
    hc rfl (by decide), hc rfl (by decide), Handler.toldAs_like, Handler.toldAs_null,
    Handler.toldAs_member, fun _ h => nomatch h⟩

/-- A token that has a built-in handler is a text by which its conditions are told. -/
theorem toldAs_handler {objects : Objects} {token : Value} {h : Handler}
    (hh : handler objects builtin token = .ok h) : ∃ s, token = .text s ∧ h.ToldAs s := by
  obtain ⟨s, rfl, hs⟩ := handler_eq_ok hh
  exact ⟨s, rfl, toldAs_builtin (s, h) (Assoc.mem_of_get? hs)⟩

end Operators

/-! ### Entries -/

namespace Where

/-- What is reported of a key when its column is looked up. -/
theorem reports_columnFor (objects : Objects) (r : Reading) (t : Table) (key : Value) :
    Reports (fun column log => t.column? objects key = .ok column ∧
      log = if column.isNone then [.verbatimKey key t.name] else [])
      (columnFor objects r t key) := by
  refine .bind (.liftedFault _) ?_
  rintro column _ ⟨hc, rfl⟩
  cases column with
  | some c => exact .pure ⟨hc, rfl⟩
  | none =>
    refine .bind (.liftedFault _) ?_
    rintro strict _ ⟨-, rfl⟩
    refine .ite (fun _ => .fail _) fun _ => .bind (.report _) ?_
    rintro _ _ rfl
    exact .pure ⟨hc, rfl⟩

end Where

namespace Condition

/-- A condition that is chosen for a value, with what is reported of its tokens. -/
def ChosenFor (objects : Objects) (key v : Value) (condition : Condition) (log : List Notice) :
    Prop :=
  ∃ tokens, chosen objects v = .ok (tokens, condition) ∧
    log = if tokens.isEmpty then [] else [.severalOperators key tokens]

theorem reports_ofValue (objects : Objects) (strict : Except Fault Bool) (key v : Value) :
    Reports (ChosenFor objects key v) (ofValue objects strict key v) := by
  have hplain (w : Value) (hw : chosen objects w = .ok ([], literal w)) :
      Reports (ChosenFor objects key w)
        (do w.checkKind objects; w.checkClass objects; return literal w : Action Feeds _) := by
    refine .bind (.liftedFault _) ?_
    rintro _ _ ⟨-, rfl⟩
    refine .bind (.liftedFault _) ?_
    rintro _ _ ⟨-, rfl⟩
    exact .pure ⟨[], hw, rfl⟩
  cases v with
  | literal v => exact .pure ⟨[], rfl, rfl⟩
  | operator token operand => exact .pure ⟨[], rfl, rfl⟩
  | dict es serial =>
    refine .bind (.liftedFault _) ?_
    rintro tokens _ ⟨ht, rfl⟩
    simp only [ChosenFor, chosen, ht, ok_bind]
    rcases tokens with _ | ⟨⟨token, operand⟩, _ | ⟨other, others⟩⟩
    · exact .pure ⟨[], rfl, rfl⟩
    · exact .pure ⟨[], rfl, rfl⟩
    · refine .bind (.liftedFault _) ?_
      rintro strict _ ⟨-, rfl⟩
      refine .ite (fun _ => .fail _) fun _ => .bind (.report _) ?_
      rintro _ _ rfl
      exact .pure ⟨_, rfl, rfl⟩
  | _ => exact hplain _ rfl

end Condition

/-- An outline tells the condition of an entry and what is reported of it. -/
structure Outline.Tells (objects : Objects) (t : Table) (lead : String) (f : Fragment)
    (log : List Notice) (o : Outline) : Prop where
  told : ∃ column name, t.column? objects o.key = .ok column ∧
    Where.columnName objects column o.key = .ok name ∧
    f.condition = o.form.condition (lead ++ name) ∧ log = o.notices t column
  params : f.params.length = o.form.bound

namespace Where

variable {ctx : Context} {config : Config} {t : Table}

theorem mirrored_fragment (hops : ctx.operators = Operators.builtin) (lead : String)
    (entry : Value × Value) :
    Mirrored (Outline.Tells ctx.objects t lead)
      (fragment ctx.objects (reading ctx config) t lead entry)
      (Outline.ofEntry ctx.objects entry) := by
  refine .left (reports_columnFor _ _ _ _) ?_
  rintro column _ ⟨hcolumn, rfl⟩
  refine .left (Condition.reports_ofValue _ _ _ _) ?_
  rintro condition _ ⟨tokens, hchosen, rfl⟩
  refine .liftedFaultLeft fun name hname => .liftedFaultRight hchosen ?_
  have htold {f : Fragment} {log : List Notice} {form : Form}
      (h : form.Tells (lead ++ name) f log) :
      Outline.Tells ctx.objects t lead f
        ((if column.isNone then [.verbatimKey entry.1 t.name] else []) ++
          ((if tokens.isEmpty then [] else [.severalOperators entry.1 tokens]) ++ log))
        ⟨entry.1, tokens, form⟩ := by
    obtain ⟨hcondition, hparams, rfl⟩ := h
    refine ⟨⟨column, name, hcolumn, hname, hcondition, ?_⟩, hparams⟩
    rw [List.append_nil]
    rfl
  cases condition with
  | literal v => exact .liftedLeft fun p _ => .pure (htold ⟨rfl, rfl, rfl⟩)
  | operator token operand =>
    refine .liftedLeft fun handle hh => ?_
    change ctx.operators.handler ctx.objects token = _ at hh
    rw [hops] at hh
    obtain ⟨s, rfl, hs⟩ := Operators.toldAs_handler hh
    exact .mapRight (hs ctx.objects _ operand _) fun _ _ _ h => htold h

/-- The outlines of a condition set tell its predicate, given the text in front of every column. -/
def Told (ctx : Context) (t : Table) (mode : AliasMode) (tableAlias : Value) (st : Statement)
    (log : List Notice) (os : List Outline) : Prop :=
  ∃ lead fragments, (os ≠ [] → qualifier ctx.objects mode t tableAlias = .ok lead) ∧
    st = joined fragments ∧ Along (Outline.Tells ctx.objects t lead) fragments log os

theorem mirrored_compile (hops : ctx.operators = Operators.builtin) (conditions : Value)
    (mode : AliasMode) (tableAlias : Value) :
    Mirrored (Told ctx t mode tableAlias) (compile ctx config t conditions mode tableAlias)
      (outlines ctx.objects conditions) := by
  refine .same (.liftedFault _) fun isTrue => ?_
  split
  · exact .pure ⟨"", [], fun h => absurd rfl h, rfl, .nil⟩
  refine .liftedLeft fun mode' hm => ?_
  cases hm
  refine .liftedFaultLeft fun lead hlead => .same (.liftedFault _) fun entries => ?_
  rw [← bind_pure (entries.mapM (Outline.ofEntry ctx.objects))]
  refine .bind (.mapM fun entry _ => mirrored_fragment hops lead entry) fun fragments log os h => ?_
  refine .pure ⟨lead, fragments, fun _ => hlead, rfl, ?_⟩
  rwa [List.append_nil]

end Where

end RecordSql
