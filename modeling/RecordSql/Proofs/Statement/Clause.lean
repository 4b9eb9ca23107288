import RecordSql.Proofs.Statement.Parts
import RecordSql.Proofs.Statement.Placeholders

/-! The conditions of an UPDATE or a DELETE: when they stand in the statement, and when the
statement is the one for all rows although there are some. -/

namespace RecordSql

open RecordSql.Action

/-! ### Empty conditions -/

/-- A handler that never makes an empty condition. -/
def Handler.Outspoken (h : Handler) : Prop :=
  ∀ objects reference operand bind, Yields (·.condition ≠ "") (h objects reference operand bind)

def Operators.Outspoken (ops : Operators) : Prop := ∀ e ∈ ops, e.2.Outspoken

/-- An entry whose operator has a handler that makes an empty condition of it. -/
def Where.Unsaid (ctx : Context) (entry : Value × Value) : Prop :=
  ∃ tokens token operand handle, Condition.chosen ctx.objects entry.2 =
      .ok (tokens, .operator token operand) ∧
    ctx.operators.handler ctx.objects token = .ok handle ∧
    ∃ reference bind feeds f, (handle ctx.objects reference operand bind feeds).result = .ok f ∧
      f.condition = ""

/-- A text that ends in a text that is not empty. -/
theorem append_ne_empty {s t : String} (ht : t ≠ "") : s ++ t ≠ "" :=
  fun h => ht (String.append_eq_empty_iff.mp h).2

namespace Handler

theorem outspoken_comparison (symbol : String) : (comparison symbol).Outspoken := by
  intro objects reference operand bind
  exact .bind (.any _) fun _ _ => .pure (append_ne_empty (by decide))

theorem outspoken_like : like.Outspoken := by
  intro objects reference operand bind
  exact .pure (append_ne_empty (by decide))

theorem outspoken_null : null.Outspoken := by
  intro objects reference operand bind
  refine .bind (.any _) fun isNull _ => .pure (append_ne_empty ?_)
  cases isNull <;> decide

theorem outspoken_member : member.Outspoken := by
  intro objects reference operand bind
  unfold member
  split
  · exact .fail _
  · exact .fail _
  · refine .bind (.any _) fun _ _ => .bind (.any _) fun _ _ => .ite (fun _ => ?_) fun _ => .fail _
    refine .bind (.any _) fun items _ => .ite (fun _ => .pure (by decide)) fun _ => ?_
    exact .bind (.any _) fun _ _ => .pure (append_ne_empty (by decide))

end Handler

namespace Operators

theorem outspoken_builtin : builtin.Outspoken := by
  simp only [Outspoken, builtin, List.forall_mem_cons, Handler.outspoken_comparison,
    Handler.outspoken_like, Handler.outspoken_null, Handler.outspoken_member]
  simp

end Operators

namespace Where

variable {ctx : Context} {config : Config} {t : Table}

theorem not_unsaid (hops : ctx.operators.Outspoken) (entry : Value × Value) :
    ¬Unsaid ctx entry := by
  rintro ⟨_, _, _, handle, -, hh, reference, bind, feeds, f, hf, hempty⟩
  obtain ⟨s, -, hs⟩ := Operators.handler_eq_ok hh
  exact hops _ (Assoc.mem_of_get? hs) _ _ _ _ feeds f hf hempty

/-- Only a handler can leave an entry without a condition. -/
theorem unsaid_of_fragment {lead : String} {entry : Value × Value} {feeds : Feeds} {f : Fragment}
    (h : (fragment ctx.objects (reading ctx config) t lead entry feeds).result = .ok f)
    (hempty : f.condition = "") : Unsaid ctx entry := by
  obtain ⟨column, -, h⟩ := bind_result_eq_ok.mp h
  obtain ⟨condition, hc, h⟩ := bind_result_eq_ok.mp h
  obtain ⟨tokens, hchosen, -⟩ := (Condition.reports_ofValue _ _ _ _ _).2 _ hc
  obtain ⟨name, -, h⟩ := bind_result_eq_ok.mp h
  cases condition with
  | literal v =>
    obtain ⟨p, -, h⟩ := bind_result_eq_ok.mp h
    cases h
    exact absurd hempty (append_ne_empty (by decide))
  | operator token operand =>
    obtain ⟨handle, hh, h⟩ := bind_result_eq_ok.mp h
    exact ⟨tokens, token, operand, handle, hchosen, hh, _, _, _, f, h, hempty⟩

/-- Joined conditions are empty only if there is no other one than an empty one. -/
theorem joined_eq_empty {fs : List Fragment} (h : (joined fs).query = "") (hne : fs ≠ []) :
    ∃ f, fs = [f] ∧ f.condition = "" := by
  rcases fs with _ | ⟨f, _ | ⟨g, fs⟩⟩
  · exact absurd rfl hne
  · exact ⟨f, rfl, by simpa [joined] using h⟩
  · have h' : f.condition ++ " AND " ++ (joined (g :: fs)).query = "" := by
      rw [← h]
      exact String.intercalate_cons_cons.symm
    rw [String.append_assoc, String.append_eq_empty_iff, String.append_eq_empty_iff] at h'
    exact absurd h'.2.1 (by decide)

/-- The predicate of a mapping with entries is empty only if there is no other entry than one that
is left without a condition. -/
theorem exists_unsaid_of_compile {entries : List (Value × Value)} (hne : entries ≠ [])
    {serial : Nat} {mode : AliasMode} {tableAlias : Value} {feeds : Feeds} {st : Statement}
    (h : (compile ctx config t (.dict entries serial) mode tableAlias feeds).result = .ok st)
    (hempty : st.query = "") : ∃ entry, entries = [entry] ∧ Unsaid ctx entry := by
  have htruth : (Value.dict entries serial).truth ctx.objects = .ok true := by
    cases entries with
    | nil => exact absurd rfl hne
    | cons e entries => rfl
  rw [compile, compileBy, htruth] at h
  obtain ⟨_, ⟨⟩, h⟩ := bind_result_eq_ok.mp h
  obtain ⟨_, -, h⟩ := bind_result_eq_ok.mp h
  obtain ⟨lead, -, h⟩ := bind_result_eq_ok.mp h
  obtain ⟨_, ⟨⟩, h⟩ := bind_result_eq_ok.mp h
  obtain ⟨fs, hfs, h⟩ := bind_result_eq_ok.mp h
  cases h
  have hruns := mapM_runs hfs
  have hne' : fs ≠ [] := by
    rintro rfl
    exact hne (List.forall₂_nil_right_iff.mp hruns)
  obtain ⟨f, rfl, hf⟩ := joined_eq_empty hempty hne'
  obtain ⟨entry, rest, ⟨_, hrun⟩, hrest, rfl⟩ := List.forall₂_cons_right_iff.mp hruns
  obtain rfl := List.forall₂_nil_right_iff.mp hrest
  exact ⟨entry, rfl, unsaid_of_fragment hrun hf⟩

end Where

/-! ### Statements -/

namespace Builder

/-- The conditions of an UPDATE or a DELETE. -/
def conditions? : Builder → Option Value
  | .update u => some u.conditions
  | .delete d => some d.conditions
  | _ => none

/-- The same UPDATE or DELETE without conditions. -/
def forAllRows : Builder → Builder
  | .update u => .update { u with conditions := .null }
  | .delete d => .delete { d with conditions := .null }
  | b => b

variable {ctx : Context} {feeds : Feeds} {b : Builder}

/-- A statement with conditions is the one for all rows with a predicate behind it, if there is any.
-/
theorem exists_forAllRows {conditions : Value} (hc : b.conditions? = some conditions)
    {st : Statement} (h : (b.build ctx feeds).result = .ok st) :
    ∃ st₀, (b.forAllRows.build ctx feeds).result = .ok st₀ ∧
      ∃ config t mode feeds' predicate,
        (Where.compile ctx config t conditions mode .null feeds').result = .ok predicate ∧
          st.query = Statement.withWhere st₀.query predicate := by
  cases b with
  | select s => cases hc
  | insert i => cases hc
  | update u =>
    cases hc
    obtain ⟨p, hb⟩ := Update.exists_built h
    rw [build, hb.run] at h
    cases h
    refine ⟨⟨"UPDATE " ++ p.table.name ++ " SET " ++
      commaSeparated (p.assigned.map fun e => e.1.name ++ " = ?"), p.assigned.map (·.2) ++ []⟩, ?_,
      u.config, p.table, u.mode, u.feedsAfter ctx feeds, p.conditions, hb.conditions, rfl⟩
    refine bind_result_eq_ok.mpr ⟨p.table, hb.table, bind_result_eq_ok.mpr ⟨p.keys, hb.keys, ?_⟩⟩
    refine bind_result_eq_ok.mpr ⟨p.assigned, hb.assigned, ?_⟩
    rw [hb.nonempty]
    rfl
  | delete d =>
    cases hc
    obtain ⟨p, hb⟩ := Delete.exists_built h
    rw [build, hb.run] at h
    cases h
    refine ⟨⟨"DELETE FROM " ++ p.table.name, []⟩, ?_, d.config, p.table, d.mode, feeds,
      p.conditions, hb.conditions, rfl⟩
    exact bind_result_eq_ok.mpr ⟨p.table, hb.table, rfl⟩

/-- A statement with conditions differs from the one for all rows by its predicate, unless there is
one condition only and a handler left it empty. No built-in handler does so. -/
theorem conditions_stand {entries : List (Value × Value)} {serial : Nat}
    (hc : b.conditions? = some (.dict entries serial)) (hne : entries ≠ []) {st : Statement}
    (h : (b.build ctx feeds).result = .ok st) :
    Operators.builtin.Outspoken ∧
    ∃ st₀, (b.forAllRows.build ctx feeds).result = .ok st₀ ∧
      ((∃ predicate, predicate ≠ "" ∧ st.query = st₀.query ++ " WHERE " ++ predicate) ∨
        st.query = st₀.query ∧ ∃ entry, entries = [entry] ∧ Where.Unsaid ctx entry) ∧
      (2 ≤ entries.length ∨ ctx.operators.Outspoken → st.query ≠ st₀.query) := by
  obtain ⟨st₀, hst₀, config, t, mode, feeds', predicate, hp, hquery⟩ := exists_forAllRows hc h
  have hcases : (predicate.query ≠ "" ∧ st.query = st₀.query ++ " WHERE " ++ predicate.query) ∨
      st.query = st₀.query ∧ ∃ entry, entries = [entry] ∧ Where.Unsaid ctx entry := by
    rw [Statement.withWhere] at hquery
    split at hquery
    · exact .inr ⟨hquery, Where.exists_unsaid_of_compile hne hp ‹_›⟩
    · exact .inl ⟨‹_›, hquery⟩
  refine ⟨Operators.outspoken_builtin, st₀, hst₀, hcases.imp_left fun h => ⟨_, h⟩, ?_⟩
  intro hsaid heq
  rcases hcases with ⟨-, hwhere⟩ | ⟨-, entry, rfl, hunsaid⟩
  · rw [hwhere, String.append_assoc, String.append_eq_left_iff, String.append_eq_empty_iff] at heq
    exact absurd heq.1 (by decide)
  · rcases hsaid with hlength | hops
    · exact Nat.not_succ_le_self 1 hlength
    · exact Where.not_unsaid hops entry hunsaid

end Builder

/-! ### A condition that is left empty -/

/-- The built-in operators and one that asks nothing of a column. -/
def anyContext : Context :=
  { petContext with operators := Assoc.put Operators.builtin "$any" fun _ _ _ _ => pure ⟨"", []⟩ }

def petDelete (token : String) : Builder :=
  .delete ⟨.cls (.plain "Pet"), .usual, .none,
    .dict [(.text "id", .dict [(.text token, .int 1)])]⟩

theorem Builder.conditions_stand_petDelete :
    ∃ st st₀, ((petDelete "$gt").build petContext []).result = .ok st ∧
      ((petDelete "$gt").forAllRows.build petContext []).result = .ok st₀ ∧
      st.query ≠ st₀.query := by
  have h : ((petDelete "$gt").build petContext []).result =
      .ok ⟨"DELETE FROM pets WHERE pet_id > ?", [.int 1]⟩ := rfl
  obtain ⟨hbuiltin, st₀, hst₀, -, hne⟩ := Builder.conditions_stand rfl (List.cons_ne_nil _ _) h
  exact ⟨_, st₀, h, hst₀, hne (.inr hbuiltin)⟩

/-- Conditions do not stand in every statement: here all pets are deleted. -/
theorem Builder.conditions_vanish :
    ¬∀ (ctx : Context) (b : Builder) (entries : List (Value × Value)) (serial : Nat) (feeds : Feeds)
      (st st₀ : Statement), b.conditions? = some (.dict entries serial) → entries ≠ [] →
      (b.build ctx feeds).result = .ok st → (b.forAllRows.build ctx feeds).result = .ok st₀ →
      st.query ≠ st₀.query := by
  intro h
  exact h anyContext (petDelete "$any") _ _ [] ⟨"DELETE FROM pets", []⟩ _ rfl (List.cons_ne_nil _ _)
    rfl rfl rfl

end RecordSql
