import RecordSql.Proofs.Alongside
import RecordSql.Proofs.Statement.Conjunction

/-! Sets of operators, which change while conditions are compiled with them. A further operator
changes nothing for conditions that do not name it: which operator a mapping stands for is told
before any set is asked. A copy of a set and the set itself go their own ways from then on: what
each of them finds for a token was registered last in that very one, or else it was there when the
copy was made. -/

namespace RecordSql

open RecordSql.Action

namespace Action

variable {σ α β : Type}

/-- What follows an action has to be the same only for what it yields. -/
theorem bind_run_congr {x : Action σ α} {f g : α → Action σ β} {s : σ}
    (h : ∀ a, (x s).result = .ok a → f a (x s).state = g a (x s).state) :
    (x >>= f) s = (x >>= g) s := by
  cases hx : (x s).result with
  | error e => rw [bind_run_of_error hx, bind_run_of_error hx]
  | ok a => rw [bind_run_of_ok hx, bind_run_of_ok hx, h a hx]

end Action

/-! ### Conditions that do not name a token -/

namespace Where

section

variable {objects : Objects} {r r' : Reading} {t : Table} {mode : Except Error AliasMode}
  {conditions tableAlias : Value}

/-- Two readings that agree on an entry: they have the same handler for the token of its
operator. -/
def AgreeOn (objects : Objects) (r r' : Reading) (entry : Value × Value) : Prop :=
  ∀ feeds token operand,
    (Condition.ofValue objects r.strict entry.1 entry.2 feeds).result =
        .ok (.operator token operand) →
      r.handler token = r'.handler token

theorem fragment_eq_of_agreeOn {entry : Value × Value} (hstrict : r.strict = r'.strict)
    (h : AgreeOn objects r r' entry) (lead : String) :
    fragment objects r t lead entry = fragment objects r' t lead entry := by
  have hcolumn : columnFor objects r t entry.1 = columnFor objects r' t entry.1 := by
    simp only [columnFor, hstrict]
  rw [fragment_eq, fragment_eq, hcolumn, ← hstrict]
  refine bind_congr fun column => ?_
  funext feeds
  apply bind_run_congr
  intro condition hcondition
  cases condition with
  | literal v => rfl
  | operator token operand =>
    have hhandler : r.handler token = r'.handler token := h feeds token operand hcondition
    simp only [Condition.make, hhandler]

/-- Readings that agree on the entries of a condition set compile it alike. -/
theorem compileBy_eq_of_agreeOn (hstrict : r.strict = r'.strict)
    (h : ∀ entries, conditions.mapping objects = .ok entries →
      ∀ entry ∈ entries, AgreeOn objects r r' entry) :
    compileBy objects r t conditions mode tableAlias =
      compileBy objects r' t conditions mode tableAlias := by
  unfold compileBy
  refine bind_congr fun isTrue => ?_
  split
  · rfl
  refine bind_congr fun m => bind_congr fun lead => liftM_fault_bind_congr fun entries he => ?_
  have hentries : entries.mapM (fragment objects r t lead) =
      entries.mapM (fragment objects r' t lead) :=
    mapM_congr fun entry hmem => fragment_eq_of_agreeOn hstrict (h entries he entry hmem) lead
  rw [hentries]

/-- A condition set of which no entry comes to an operator with some token. -/
def Avoids (objects : Objects) (strict : Bool) (token : String) (conditions : Value) : Prop :=
  ∀ entries, conditions.mapping objects = .ok entries → ∀ entry ∈ entries, ∀ feeds operand,
    (Condition.ofValue objects (.ok strict) entry.1 entry.2 feeds).result ≠
      .ok (.operator (.text token) operand)

end

end Where

namespace Operators

variable {objects : Objects} {ops ops' : Operators} {token : Value}

theorem find?_text (ops : Operators) (s : String) :
    find? ops (.text s) = Assoc.get? ops s := rfl

theorem find?_put_of_ne {s : String} (hne : token ≠ .text s) (h : Handler) :
    find? (Assoc.put ops s h) token = find? ops token := by
  cases token with
  | text s' =>
    have hs : s ≠ s' := fun hs => hne (by rw [hs])
    rw [find?_text, find?_text, Assoc.get?_put, if_neg hs]
  | _ => rfl

/-- A handler is what is found of a token that can be looked up at all. -/
theorem handler_congr (h : ops.find? token = ops'.find? token) :
    ops.handler objects token = ops'.handler objects token := by
  simp only [handler, h]

theorem register_text {s : String} (hs : isToken s = true) (h : Handler) :
    register objects ops (.text s) h = .ok (Assoc.put ops s h) :=
  if_pos hs

end Operators

namespace Where

/-- A further operator makes no difference to conditions that do not name it. -/
theorem compileGiven_put {ctx : Context} {config : Config} {s : String} {conditions : Value}
    (h : Avoids ctx.objects config.strict s conditions) (handle : Handler) (t : Table)
    (mode tableAlias : Value) :
    compileGiven { ctx with operators := Assoc.put ctx.operators s handle } config t conditions mode
        tableAlias =
      compileGiven ctx config t conditions mode tableAlias := by
  refine compileBy_eq_of_agreeOn ?_ ?_
  · rfl
  intro entries he entry hmem feeds token operand hcondition
  have hne : token ≠ .text s := by
    rintro rfl
    exact h entries he entry hmem feeds operand hcondition
  exact Operators.handler_congr (Operators.find?_put_of_ne hne handle)

/-- Conditions are compiled by what is found for tokens, not by how it came to be there. -/
theorem compileGiven_congr {ctx : Context} {ops ops' : Operators}
    (h : ∀ token, ops.find? token = ops'.find? token) (config : Config) (t : Table)
    (conditions mode tableAlias : Value) :
    compileGiven { ctx with operators := ops } config t conditions mode tableAlias =
      compileGiven { ctx with operators := ops' } config t conditions mode tableAlias := by
  refine compileBy_eq_of_agreeOn ?_ ?_
  · rfl
  intro _ _ _ _ _ token _ _
  exact Operators.handler_congr (h token)

end Where

/-! ### Sets that are copied and changed -/

/-- Sets of operators by number. -/
abbrev OperatorSets := List Operators

namespace OperatorSets

/-- What is done to sets: a handler is registered in one of them, with the objects as they are then,
or one of them is copied. -/
inductive Call where
  | register (objects : Objects) (set : Nat) (token : Value) (handle : Handler)
  | copy (set : Nat)

/-- The sets after a call. One that is refused changes nothing; a copy comes behind all others. -/
def Call.run (sets : OperatorSets) : Call → OperatorSets
  | register objects n token handle =>
    match sets[n]? with
    | none => sets
    | some ops => match ops.register objects token handle with
      | .ok ops' => sets.set n ops'
      | .error _ => sets
  | copy n => match sets[n]? with
    | none => sets
    | some ops => sets ++ [ops]

/-- The handler that a call registers for a token in one of the sets. -/
def Call.given? (n : Nat) (token : String) : Call → Option Handler
  | register _ k (.text s) handle =>
    if k = n ∧ s = token ∧ Operators.isToken s = true then some handle else none
  | _ => none

/-- The sets after calls. -/
def after (sets : OperatorSets) (calls : List Call) : OperatorSets := calls.foldl Call.run sets

@[simp] theorem after_nil (sets : OperatorSets) : sets.after [] = sets := rfl

@[simp] theorem after_cons (sets : OperatorSets) (c : Call) (calls : List Call) :
    sets.after (c :: calls) = OperatorSets.after (c.run sets) calls := rfl

theorem after_append (sets : OperatorSets) (calls calls' : List Call) :
    sets.after (calls ++ calls') = (sets.after calls).after calls' :=
  List.foldl_append

/-- The handler that calls register last for a token in one of the sets. -/
def latest? (n : Nat) (token : String) : List Call → Option Handler
  | [] => none
  | c :: calls => (latest? n token calls).or (c.given? n token)

/-- A set after calls: it has found its handlers among them and in what it was before. -/
def Succeeds (n : Nat) (calls : List Call) (ops ops' : Operators) : Prop :=
  ∀ token, ops'.find? (.text token) = (latest? n token calls).or (ops.find? (.text token))

variable {sets : OperatorSets} {n : Nat} {ops : Operators}

/-- What a registered handler changes in a set. -/
theorem find?_register {objects : Objects} {token : Value} {handle : Handler} {ops' : Operators}
    (h : ops.register objects token handle = .ok ops') (token' : String) :
    ops'.find? (.text token') =
      ((Call.register objects n token handle).given? n token').or (ops.find? (.text token')) := by
  cases token with
  | text s =>
    rw [Operators.register] at h
    split at h
    · rename_i hs
      cases h
      rw [Operators.find?_text, Assoc.get?_put, Call.given?]
      by_cases hne : s = token'
      · simp [hne, hne ▸ hs]
      · simp [hne, Operators.find?_text]
    · cases h
  | bytes bs => cases h
  | _ =>
    obtain ⟨found, -, h⟩ := bind_eq_ok.mp h
    cases h

/-- What is refused registers nothing. -/
theorem given?_of_error {objects : Objects} {token : Value} {handle : Handler} {f : Fault}
    (h : ops.register objects token handle = .error f) (n : Nat) (token' : String) :
    (Call.register objects n token handle).given? n token' = none := by
  cases token with
  | text s =>
    rw [Operators.register] at h
    split at h
    · cases h
    · rename_i hs
      simp [Call.given?, hs]
  | _ => rfl

/-- A call changes of a set what it registers in that very set. -/
theorem Call.succeeds_run (c : Call) (h : sets[n]? = some ops) :
    ∃ ops', (c.run sets)[n]? = some ops' ∧ Succeeds n [c] ops ops' := by
  have hlatest (token : String) : latest? n token [c] = c.given? n token := by simp [latest?]
  simp only [Succeeds, hlatest]
  cases c with
  | copy k =>
    refine ⟨ops, ?_, fun token => by simp [given?]⟩
    simp only [run]
    split
    · exact h
    · have hn : n < sets.length := (List.getElem?_eq_some_iff.mp h).1
      rw [List.getElem?_append_left hn, h]
  | register objects k token handle =>
    by_cases hk : k = n
    · subst hk
      simp only [run, h]
      cases hregister : ops.register objects token handle with
      | ok ops' =>
        have hn : k < sets.length := (List.getElem?_eq_some_iff.mp h).1
        refine ⟨ops', ?_, find?_register hregister⟩
        exact List.getElem?_set_self hn
      | error f =>
        refine ⟨ops, h, fun token' => ?_⟩
        rw [given?_of_error hregister, Option.none_or]
    · have hgiven (token' : String) :
          (Call.register objects k token handle).given? n token' = none := by
        cases token with
        | text s => simp [given?, hk]
        | _ => rfl
      refine ⟨ops, ?_, fun token' => by rw [hgiven, Option.none_or]⟩
      simp only [run]
      split
      · exact h
      · split
        · rw [List.getElem?_set_ne hk, h]
        · exact h

/-- A set after calls on it and on others. -/
theorem succeeds_after (calls : List Call) (h : sets[n]? = some ops) :
    ∃ ops', (sets.after calls)[n]? = some ops' ∧ Succeeds n calls ops ops' := by
  induction calls generalizing sets ops with
  | nil => exact ⟨ops, h, fun token => rfl⟩
  | cons c calls ih =>
    obtain ⟨opsNow, hnow, hstep⟩ := c.succeeds_run h
    obtain ⟨ops', hops', hrest⟩ := ih hnow
    refine ⟨ops', hops', fun token => ?_⟩
    rw [hrest token, hstep token, latest?, latest?, latest?, Option.none_or, Option.or_assoc]

/-- A copy has its own number, and the handlers of what was copied. -/
theorem run_copy (h : sets[n]? = some ops) :
    ((Call.copy n).run sets)[n]? = some ops ∧
      ((Call.copy n).run sets)[sets.length]? = some ops := by
  have hn : n < sets.length := (List.getElem?_eq_some_iff.mp h).1
  have hrun : (Call.copy n).run sets = sets ++ [ops] := by
    simp only [Call.run, h]
  rw [hrun]
  constructor
  · rw [List.getElem?_append_left hn, h]
  · exact List.getElem?_concat_length

/-- Sets that come from the same one by the same calls find the same handlers. -/
theorem Succeeds.find?_eq {calls : List Call} {ops₁ ops₂ : Operators}
    (h₁ : Succeeds n calls ops ops₁) (h₂ : Succeeds n calls ops ops₂)
    (token : Value) : ops₁.find? token = ops₂.find? token := by
  cases token with
  | text s => rw [h₁ s, h₂ s]
  | _ => rfl

end OperatorSets

/-- To register an operator is to leave all conditions as they are that do not name it: what they
come to, and what is reported. A set and its copy do not touch each other: whatever calls are made
on either of them, conditions are compiled with the handlers that were there when the copy was made
and those registered since in that very set, the last one for each token. -/
theorem Where.operators_conserve (ctx : Context) (config : Config) (t : Table)
    (mode tableAlias : Value) :
    let compiled (ops : Operators) (conditions : Value) : Action Feeds Statement :=
      compileGiven { ctx with operators := ops } config t conditions mode tableAlias
    (∀ (ops : Operators) (token : String) (handle : Handler), Operators.isToken token = true →
      ∃ ops', ops.register ctx.objects (.text token) handle = .ok ops' ∧
        ∀ conditions, Avoids ctx.objects config.strict token conditions →
          compiled ops' conditions = compiled ops conditions) ∧
    ∀ (sets : OperatorSets) (n : Nat) (base : Operators) (calls : List OperatorSets.Call),
      sets[n]? = some base → ∀ k, k = n ∨ k = sets.length →
        ∃ ops, (sets.after (.copy n :: calls))[k]? = some ops ∧
          OperatorSets.Succeeds k calls base ops ∧
          ∀ ops', OperatorSets.Succeeds k calls base ops' →
            ∀ conditions, compiled ops conditions = compiled ops' conditions := by
  intro compiled
  constructor
  · intro ops token handle htoken
    refine ⟨_, Operators.register_text htoken handle, fun conditions h => ?_⟩
    have havoids : Avoids { ctx with operators := ops }.objects config.strict token conditions := h
    exact compileGiven_put havoids handle t mode tableAlias
  · intro sets n base calls hbase k hk
    obtain ⟨hsource, hcopy⟩ := OperatorSets.run_copy hbase
    have hnow : ((OperatorSets.Call.copy n).run sets)[k]? = some base := by
      rcases hk with rfl | rfl
      · exact hsource
      · exact hcopy
    obtain ⟨ops, hops, hsucceeds⟩ := OperatorSets.succeeds_after calls hnow
    refine ⟨ops, hops, hsucceeds, fun ops' hops' conditions => ?_⟩
    exact compileGiven_congr (hsucceeds.find?_eq hops') config t conditions mode tableAlias

/-- A set and its copy, in which equality becomes a pattern: only the copy knows of it. -/
theorem Where.operators_conserve_copied :
    let compiled (ops : Operators) (conditions : Value) : Action Feeds Statement :=
      compileGiven { petContext with operators := ops } .usual petTable conditions (.text "none")
        .null
    let unknown : Value := .dict [(.text "id", .dict [(.text "$none", .int 1)])]
    let calls : List OperatorSets.Call :=
      [.register noObjects 1 (.text "$eq") Handler.like,
        .register noObjects 0 (.text "eq") Handler.like,
        .register noObjects 0 (.text "$any") Handler.null]
    (∃ ops, Operators.builtin.register noObjects (.text "$any") Handler.like = .ok ops ∧
      (compiled ops unknown []).result = .error (.unsupported (.text "$none"))) ∧
    ∃ ops copied, (OperatorSets.after [Operators.builtin] (.copy 0 :: calls))[0]? = some ops ∧
      (OperatorSets.after [Operators.builtin] (.copy 0 :: calls))[1]? = some copied ∧
      let equal : Value := .dict [(.text "id", .dict [(.text "$eq", .int 1)])]
      (compiled ops equal []).result = .ok ⟨"pet_id = ?", [.int 1]⟩ ∧
      (compiled copied equal []).result = .ok ⟨"pet_id LIKE ?", [.int 1]⟩ := by
  intro compiled unknown calls
  obtain ⟨hput, hrun⟩ := operators_conserve petContext .usual petTable (.text "none") .null
  constructor
  · obtain ⟨ops, hops, hsame⟩ := hput Operators.builtin "$any" Handler.like rfl
    have havoids : Avoids petContext.objects Config.usual.strict "$any" unknown := by
      rintro entries ⟨⟩ entry hmem feeds operand h
      obtain rfl := List.mem_singleton.mp hmem
      have hvalue : (.ok (.operator (.text "$none") (.int 1)) : Except Error Condition) =
          .ok (.operator (.text "$any") operand) := h
      simp at hvalue
    exact ⟨ops, hops, congrArg Outcome.result (congrFun (hsame unknown havoids) [])⟩
  · obtain ⟨ops, hops, -, hsame⟩ := hrun [Operators.builtin] 0 _ calls rfl 0 (.inl rfl)
    obtain ⟨copied, hcopied, -, hsame'⟩ := hrun [Operators.builtin] 0 _ calls rfl 1 (.inr rfl)
    have hunprefixed : Operators.isToken "eq" = false := rfl
    have hown : OperatorSets.Succeeds 0 calls Operators.builtin
        (Assoc.put Operators.builtin "$any" Handler.null) := by
      intro token
      have hany : Operators.isToken "$any" = true := rfl
      rw [Operators.find?_text, Assoc.get?_put]
      by_cases h : "$any" = token
      · subst h
        simp [calls, OperatorSets.latest?, OperatorSets.Call.given?, hany]
      · simp [calls, OperatorSets.latest?, OperatorSets.Call.given?, h, hunprefixed,
          Operators.find?_text]
    have hcopy : OperatorSets.Succeeds 1 calls Operators.builtin
        (Assoc.put Operators.builtin "$eq" Handler.like) := by
      intro token
      have heq : Operators.isToken "$eq" = true := rfl
      rw [Operators.find?_text, Assoc.get?_put]
      by_cases h : "$eq" = token
      · subst h
        simp [calls, OperatorSets.latest?, OperatorSets.Call.given?, heq]
      · simp [calls, OperatorSets.latest?, OperatorSets.Call.given?, h, Operators.find?_text]
    refine ⟨ops, copied, hops, hcopied, ?_, ?_⟩
    · exact congrArg Outcome.result (congrFun (hsame _ hown _) [])
    · exact congrArg Outcome.result (congrFun (hsame' _ hcopy _) [])

end RecordSql
