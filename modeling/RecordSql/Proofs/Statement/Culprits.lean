import Mathlib.Data.List.ProdSigma
import RecordSql.Proofs.Assoc
import RecordSql.Proofs.Mapping.Culprits
import RecordSql.Proofs.Registry.Refusals
import RecordSql.Proofs.Statement.Conjunction
import RecordSql.Proofs.Statement.Rows

/-! Culprits in statements: which values of rows, of assignments and of conditions are handed to
transformers, in which order, and that the first one for which a transformer fails is named. -/

namespace RecordSql

open RecordSql.Action

/-! ### Rows -/

theorem mapM_product_eq_error {α β γ ε : Type} {f : α → γ → Except ε β} {l : List α} {m : List γ}
    {e : ε} : (l ×ˢ m).mapM (fun x => f x.1 x.2) = .error e ↔
      l.mapM (fun a => m.mapM (f a)) = .error e := by
  induction l with
  | nil => exact ⟨nofun, nofun⟩
  | cons a l ih =>
    rw [List.product_cons, List.mapM_append, List.mapM_map, List.mapM_cons, bind_eq_error,
      bind_eq_error]
    refine or_congr Iff.rfl (exists_congr fun bs => and_congr_right fun _ => ?_)
    rw [bind_eq_error, bind_eq_error, ih]
    simp [pure, Except.pure]

namespace Source

/-- What a source hands to the transformer of a column: the value that it gives for it. -/
def Hands (objects : Objects) (_ : Unit) (x : Value × Column) (cells : List (Column × Value))
    (_ : Unit) : Prop :=
  ∃ v, Gives objects x.1 x.2.propertyKey v ∧ cells = [(x.2, v)]

variable {objects : Objects}

theorem cell_of_gives {source v : Value} {c : Column} (hv : Gives objects source c.propertyKey v) :
    cell objects source c = Column.stored objects (some c) v := by
  rw [cell, read_eq_ok.mpr hv]
  rfl

/-- A source that gives nothing for a column fails with a fault of its own. -/
theorem exists_gives {source : Value} {c : Column}
    (h : FailsByTransformers (cell objects source c)) :
    ∃ v, Gives objects source c.propertyKey v := by
  cases hr : read objects source c.propertyKey with
  | ok v => exact ⟨v, read_eq_ok.mp hr⟩
  | error f =>
    rw [cell, hr] at h
    cases h _ rfl

theorem handsOver_cell : HandsOver objects .store (Hands objects)
    fun x => (liftM (cell objects x.1 x.2) : Action Unit Value) where
  error_iff := by
    rintro _ x _ _ ⟨v, hv, rfl⟩ e
    rw [blames_singleton, liftM_run, cell_of_gives hv]
    rfl
  state _ _ _ := rfl
  hands h := by
    obtain ⟨v, hv⟩ := exists_gives h
    exact ⟨_, (), v, hv, rfl⟩

/-- Rows that give a value for each column hand over all of them. -/
theorem handsEach_of_gives {l : List (Value × Column)} {cells : List (Column × Value)}
    (h : List.Forall₂ (fun x cell => cell.1 = x.2 ∧ Gives objects x.1 x.2.propertyKey cell.2)
      l cells) : HandsEach (Hands objects) () l cells () := by
  induction h with
  | nil => exact .nil ()
  | @cons x cell l cells hx _ ih =>
    obtain ⟨c, v⟩ := cell
    obtain ⟨rfl, hv⟩ := hx
    exact .cons ⟨v, hv, rfl⟩ ih

end Source

theorem Insert.blamesCulprits {ctx : Context} {i : Insert} {feeds : Feeds} {t : Table}
    {columns : List Column} {rows : List Value} (hrows : i.rows = some rows) (hne : rows ≠ [])
    (ht : ctx.registry.table ctx.objects i.entity = .ok t)
    (hc : Insert.columns ctx.objects t = .ok columns) (hcolumns : columns ≠ []) :
    BlamesCulprits ctx.objects .store (HandsFirst (Source.Hands ctx.objects) () (rows ×ˢ columns))
      (fun cells => ∃ s, HandsEach (Source.Hands ctx.objects) () (rows ×ˢ columns) cells s)
      (i.build ctx feeds).result := by
  refine (blamesCulprits_of_computes Source.handsOver_cell (rows ×ˢ columns)).congr fun e => ?_
  rw [build_result hrows hne ht hc, if_neg hcolumns, map_eq_error, mapM_product_eq_error]
  rfl

/-! ### Conditions -/

/-- The values that a condition hands over: what a column is compared with, and the items that it is
looked up among. Patterns are not handed over, nor what tells whether a column is null. -/
inductive Condition.Hands (objects : Objects) (feeds : Feeds) :
    Condition → List Value → Feeds → Prop
  | literal (v : Value) : Hands objects feeds (.literal v) [v] feeds
  | comparison {token : String} (ht : token ∈ Assoc.keys Form.symbols) (hlike : token ≠ "$like")
    (v : Value) : Hands objects feeds (.operator (.text token) v) [v] feeds
  | like (v : Value) : Hands objects feeds (.operator (.text "$like") v) [] feeds
  | null {v : Value} {isNull : Bool} (hv : v.truth objects = .ok isNull) :
    Hands objects feeds (.operator (.text "$null") v) [] feeds
  | among {v : Value} {items : List Value} (hv : v.Gathers objects feeds items) :
    Hands objects feeds (.operator (.text "$in") v) items (v.elements objects feeds).state

theorem Value.untransformed_elements (objects : Objects) (v : Value) :
    (v.elements objects).Untransformed := by
  cases v with
  | feed i =>
    refine .getBind fun feeds _ => .bind (r := fun _ _ => True) (.modify fun _ _ => trivial) ?_
    exact fun _ => .pure fun _ _ => trivial
  | _ => exact untransformed_liftM _

/-- A handler that binds the values that are handed over by a token, after all that can be refused
of its operand. -/
structure Handler.HandsOver (h : Handler) (token : String) : Prop where
  run : ∀ {objects operand feeds items feeds'},
    Condition.Hands objects feeds (.operator (.text token) operand) items feeds' →
    ∀ reference, ∃ g log, ∀ bind,
      h objects reference operand bind feeds = ⟨(items.mapM bind).map g, feeds', log⟩
  hands : ∀ {objects reference operand bind feeds},
    FailsByTransformers (h objects reference operand bind feeds).result →
    ∃ items feeds', Condition.Hands objects feeds (.operator (.text token) operand) items feeds'

namespace Handler

theorem handsOver_comparison {symbol token : String} (hmem : token ∈ Assoc.keys Form.symbols)
    (h : token ≠ "$like" ∧ token ≠ "$null" ∧ token ≠ "$in") :
    (comparison symbol).HandsOver token where
  run := by
    obtain ⟨hlike, hnull, hin⟩ := h
    intro objects operand feeds items feeds' hh reference
    cases hh with
    | comparison =>
      refine ⟨fun params => ⟨reference ++ " " ++ symbol ++ " ?", params⟩, [], fun bind => ?_⟩
      rw [comparison, liftM_bind_run, List.mapM_cons, List.mapM_nil]
      cases bind operand <;> rfl
    | like => contradiction
    | null => contradiction
    | among => contradiction
  hands _ := ⟨_, _, .comparison hmem h.1 _⟩

theorem handsOver_like : like.HandsOver "$like" where
  run := by
    intro objects operand feeds items feeds'
    generalize htoken : "$like" = token
    intro h reference
    cases h with
    | comparison _ hlike => exact absurd htoken.symm hlike
    | like => exact ⟨fun _ => ⟨reference ++ " LIKE ?", [operand]⟩, [], fun _ => rfl⟩
    | null | among => simp at htoken
  hands _ := ⟨[], _, .like _⟩

theorem handsOver_null : null.HandsOver "$null" where
  run := by
    intro objects operand feeds items feeds'
    generalize htoken : "$null" = token
    intro h reference
    cases h with
    | comparison ht => simp [← htoken, Form.symbols, Assoc.keys] at ht
    | @null _ isNull hv =>
      refine ⟨fun _ => ⟨reference ++ (if isNull then " IS NULL" else " IS NOT NULL"), []⟩, [],
        fun _ => ?_⟩
      rw [null, liftM_fault_bind_run, hv]
      rfl
    | like | among => simp at htoken
  hands := by
    intro objects reference operand bind feeds h
    obtain ⟨isNull, hv, -⟩ := exists_ok_of_liftM h
    exact ⟨[], feeds, .null hv⟩

theorem handsOver_member : member.HandsOver "$in" where
  run := by
    intro objects operand feeds items feeds'
    generalize htoken : "$in" = token
    intro h reference
    cases h with
    | comparison ht => simp [← htoken, Form.symbols, Assoc.keys] at ht
    | among hv =>
      rcases he : operand.elements objects feeds with ⟨r, feeds', log⟩
      have hitems := hv.elements
      rw [he] at hitems
      cases hitems
      refine ⟨fun params => if items.isEmpty then ⟨"1 = 0", []⟩ else
        ⟨reference ++ " IN (" ++ placeholders items.length ++ ")", params⟩, log, fun bind => ?_⟩
      unfold member
      split
      · exact absurd rfl (hv.notText _)
      · exact absurd rfl (hv.notBytes _)
      · rw [liftM_fault_bind_run, hv.kind]
        dsimp only
        rw [liftM_fault_bind_run, hv.iterable]
        dsimp only
        rw [if_pos rfl, bind_run_ok he]
        cases items with
        | nil => exact congrArg (Outcome.mk _ feeds') (List.append_nil log)
        | cons v items =>
          rw [if_neg (by simp), liftM_bind_run]
          cases (v :: items).mapM bind <;> simp
    | like | null => simp at htoken
  hands := by
    intro objects reference operand bind feeds h
    unfold member at h
    split at h
    · cases h _ rfl
    · cases h _ rfl
    · rename_i htext hbytes
      obtain ⟨⟨⟩, hkind, h⟩ := exists_ok_of_liftM h
      obtain ⟨isIterable, hiterable, h⟩ := exists_ok_of_liftM h
      cases isIterable with
      | false => cases h _ rfl
      | true =>
        rw [if_pos rfl] at h
        obtain ⟨items, hitems, -⟩ := (Value.untransformed_elements objects operand).exists_ok h
        exact ⟨items, _, .among ⟨htext, hbytes, hkind, hiterable, hitems⟩⟩

end Handler

namespace Operators

theorem handsOver_builtin : ∀ e ∈ builtin, e.2.HandsOver e.1 := by
  have hc {symbol token : String} (hmem : token ∈ Assoc.keys Form.symbols)
      (h : token ≠ "$like" ∧ token ≠ "$null" ∧ token ≠ "$in") :
      (Handler.comparison symbol).HandsOver token := Handler.handsOver_comparison hmem h
  simp only [builtin, List.forall_mem_cons]
  exact ⟨hc (by decide) (by decide), hc (by decide) (by decide), hc (by decide) (by decide),
    hc (by decide) (by decide), hc (by decide) (by decide), hc (by decide) (by decide),
    Handler.handsOver_like, Handler.handsOver_null, Handler.handsOver_member, by simp⟩

theorem handler_untransformed {objects : Objects} {ops : Operators} {token : Value} {e : Error}
    (h : ops.handler objects token = .error e) : e.family ≠ .transformation := by
  rcases bind_eq_error.mp h with h | ⟨-, -, h⟩
  · obtain ⟨f, -, rfl⟩ := mapError_eq_error.mp h
    exact nofun
  · split at h
    · cases h
    · cases h
      exact nofun

/-- A token that is registered has its handler. -/
theorem exists_handler (objects : Objects) {s : String} (hs : s ∈ Assoc.keys builtin) :
    ∃ handle, (s, handle) ∈ builtin ∧ builtin.handler objects (.text s) = .ok handle := by
  obtain ⟨handle, hhandle⟩ := Option.isSome_iff_exists.mp (Assoc.isSome_get?_iff.mpr hs)
  refine ⟨handle, Assoc.mem_of_get? hhandle, ?_⟩
  have hfind : builtin.find? (.text s) = some handle := hhandle
  rw [handler, hfind]
  rfl

end Operators

namespace Condition

variable {objects : Objects} {feeds feeds' : Feeds} {condition : Condition} {items : List Value}
  {handler : Value → Except Error Handler}

/-- The token of a condition that hands something over is a built-in one. -/
theorem Hands.mem_builtin {token operand : Value}
    (h : Hands objects feeds (.operator token operand) items feeds') :
    ∃ s, token = .text s ∧ s ∈ Assoc.keys Operators.builtin := by
  cases h with
  | @comparison token ht =>
    have hkeys : Assoc.keys Form.symbols ⊆ Assoc.keys Operators.builtin := by decide
    exact ⟨token, rfl, hkeys ht⟩
  | like => exact ⟨_, rfl, by decide⟩
  | null => exact ⟨_, rfl, by decide⟩
  | among => exact ⟨_, rfl, by decide⟩

theorem run_make (hh : handler = Operators.builtin.handler objects)
    (h : condition.Hands objects feeds items feeds') (reference : String) :
    ∃ g log, ∀ bind, condition.make objects handler reference bind feeds =
      ⟨(items.mapM bind).map g, feeds', log⟩ := by
  subst hh
  cases condition with
  | literal v =>
    cases h
    refine ⟨fun params => ⟨reference ++ " = ?", params⟩, [], fun bind => ?_⟩
    rw [make, liftM_bind_run, List.mapM_cons, List.mapM_nil]
    cases bind v <;> rfl
  | operator token operand =>
    obtain ⟨s, rfl, hs⟩ := h.mem_builtin
    obtain ⟨handle, hmem, hhandle⟩ := Operators.exists_handler objects hs
    obtain ⟨g, log, hrun⟩ := (Operators.handsOver_builtin _ hmem).run h reference
    refine ⟨g, log, fun bind => ?_⟩
    rw [make, liftM_bind_run, hhandle]
    exact hrun bind

/-- What is made of a condition depends on how values are bound only by those that are handed over.
-/
theorem make_congr (hh : handler = Operators.builtin.handler objects)
    (h : condition.Hands objects feeds items feeds') {bind bind' : Binding}
    (heq : ∀ v ∈ items, bind v = bind' v) (reference : String) :
    condition.make objects handler reference bind feeds =
      condition.make objects handler reference bind' feeds := by
  obtain ⟨g, log, hrun⟩ := run_make hh h reference
  rw [hrun, hrun, mapM_congr heq]

theorem exists_hands (hh : handler = Operators.builtin.handler objects) {reference : String}
    {bind : Binding}
    (h : FailsByTransformers (condition.make objects handler reference bind feeds).result) :
    ∃ items feeds', condition.Hands objects feeds items feeds' := by
  subst hh
  cases condition with
  | literal v => exact ⟨[v], feeds, .literal v⟩
  | operator token operand =>
    rw [make, liftM_bind_run] at h
    cases hhandle : Operators.builtin.handler objects token with
    | error e =>
      rw [hhandle] at h
      exact absurd (h e rfl) (Operators.handler_untransformed hhandle)
    | ok handle =>
      rw [hhandle] at h
      obtain ⟨s, rfl, hs⟩ := Operators.handler_eq_ok hhandle
      exact (Operators.handsOver_builtin _ (Assoc.mem_of_get? hs)).hands h

theorem untransformed_ofValue (strict : Except Fault Bool) (key v : Value) :
    (ofValue objects strict key v).Untransformed := by
  have hplain (w : Value) : Action.Untransformed
      (do w.checkKind objects; w.checkClass objects; return literal w : Action Feeds Condition) :=
    .bind (untransformed_liftM _) fun _ => .bind (untransformed_liftM _) fun _ =>
      .pure fun _ _ => trivial
  cases v with
  | literal v => exact .pure fun _ _ => trivial
  | operator token operand => exact .pure fun _ _ => trivial
  | dict es serial =>
    refine .bind (untransformed_liftM _) fun tokens => ?_
    rcases tokens with _ | ⟨⟨token, operand⟩, _ | ⟨other, others⟩⟩
    · exact .pure fun _ _ => trivial
    · exact .pure fun _ _ => trivial
    · refine .bind (untransformed_liftM _) fun isStrict => .ite (fun _ => .fail nofun) fun _ => ?_
      exact .bind (.report _) fun _ => .pure fun _ _ => trivial
  | _ => exact hplain _

end Condition

namespace Where

/-- What an entry hands to the transformer of its column, if it has one, once its key and its
condition are read. -/
def Hands (objects : Objects) (r : Reading) (t : Table) (feeds : Feeds) (entry : Value × Value)
    (cells : List (Column × Value)) (feeds' : Feeds) : Prop :=
  ∃ column name condition items, Refers objects r t entry.1 column name ∧
    (Condition.ofValue objects r.strict entry.1 entry.2 feeds).result = .ok condition ∧
    condition.Hands objects feeds items feeds' ∧
    cells = column.elim [] fun c => items.map (c, ·)

/-- What some of the first entries of a condition set hand over. -/
def HandsSome (objects : Objects) (r : Reading) (t : Table) (feeds : Feeds) (conditions : Value)
    (cells : List (Column × Value)) : Prop :=
  ∃ es serial, conditions = .dict es serial ∧
    HandsFirst (Hands objects r t) feeds es cells

/-- What all entries of a condition set hand over, if there are any. -/
inductive HandsAll (objects : Objects) (r : Reading) (t : Table) (feeds : Feeds) :
    Value → List (Column × Value) → Prop
  | none {conditions : Value} (h : conditions.truth objects = .ok false) :
    HandsAll objects r t feeds conditions []
  | entries {es : List (Value × Value)} {serial : Nat} {cells : List (Column × Value)}
    {feeds' : Feeds} (h : HandsEach (Hands objects r t) feeds es cells feeds') :
    HandsAll objects r t feeds (.dict es serial) cells

variable {objects : Objects} {r : Reading} {t : Table} {feeds feeds' : Feeds}
  {entry : Value × Value} {conditions : Value} {cells : List (Column × Value)} {lead : String}

theorem untransformed_columnFor (key : Value) : (columnFor objects r t key).Untransformed := by
  refine .bind (untransformed_liftM _) fun column => ?_
  cases column with
  | some c => exact .pure fun _ _ => trivial
  | none =>
    refine .bind (untransformed_liftM _) fun isStrict => .ite (fun _ => .fail nofun) fun _ => ?_
    exact .bind (.report _) fun _ => .pure fun _ _ => trivial

/-- Items of an entry without a column are bound as they are. -/
theorem mapM_stored_eq_error (column : Option Column) (items : List Value) (e : Error) :
    items.mapM (Column.stored objects column) = .error e ↔
      Blames objects .store (column.elim [] fun c => items.map (c, ·)) e := by
  rw [← mapM_converted_eq_error]
  cases column with
  | none =>
    refine ⟨fun h => ?_, nofun⟩
    obtain ⟨v, -, hv⟩ := exists_of_mapM_error h
    cases hv
  | some c =>
    rw [Option.elim_some, List.mapM_map]
    rfl

section

variable {column : Option Column} {name : String} {condition : Condition} {items : List Value}
  (hr : r.handler = Operators.builtin.handler objects)
include hr

/-- An entry that is read binds the values that its condition hands over, and fails only with them.
-/
theorem run_fragment (hrefers : Refers objects r t entry.1 column name)
    (hcondition : (Condition.ofValue objects r.strict entry.1 entry.2 feeds).result = .ok condition)
    (hitems : condition.Hands objects feeds items feeds') :
    ∃ g, (fragment objects r t lead entry feeds).result =
        (items.mapM (Column.stored objects column)).map g ∧
      (fragment objects r t lead entry feeds).state = feeds' := by
  have hkey : (columnFor objects r t entry.1 feeds).result = .ok column ∧
      columnName objects column entry.1 = .ok name := refers_iff.mp hrefers
  obtain ⟨hcolumn, hname⟩ := hkey
  obtain ⟨g, log, hmake⟩ := Condition.run_make hr hitems (lead ++ name)
  refine ⟨g, ?_⟩
  rw [fragment_eq, bind_run_of_ok hcolumn, (reports_columnFor objects r t entry.1 feeds).1,
    bind_run_of_ok hcondition, (Condition.reports_ofValue objects r.strict _ _ feeds).1,
    liftM_fault_bind_run, hname]
  dsimp only
  rw [hmake]
  exact ⟨rfl, rfl⟩

theorem handsOver_fragment (lead : String) :
    HandsOver objects .store (Hands objects r t) (fragment objects r t lead) where
  error_iff := by
    rintro feeds entry _ feeds' ⟨column, name, condition, items, hkey, hvalue, hitems, rfl⟩ e
    obtain ⟨g, hresult, -⟩ := run_fragment hr hkey hvalue hitems
    rw [hresult, map_eq_error, mapM_stored_eq_error]
  state := by
    rintro feeds entry _ feeds' ⟨column, name, condition, items, hkey, hvalue, hitems, rfl⟩ _ _
    obtain ⟨g, -, hstate⟩ := run_fragment hr hkey hvalue hitems
    exact hstate
  hands := by
    intro feeds entry h
    rw [fragment_eq] at h
    obtain ⟨column, hcolumn, h⟩ := (untransformed_columnFor entry.1).exists_ok h
    obtain ⟨condition, hvalue, h⟩ := (Condition.untransformed_ofValue r.strict _ _).exists_ok h
    obtain ⟨name, hname, h⟩ := exists_ok_of_liftM h
    rw [(reports_columnFor objects r t entry.1 feeds).1] at hvalue h
    rw [(Condition.reports_ofValue objects r.strict entry.1 entry.2 feeds).1] at h
    obtain ⟨items, feeds', hitems⟩ := Condition.exists_hands hr h
    exact ⟨_, feeds', column, name, condition, items, refers_iff.mpr ⟨hcolumn, hname⟩, hvalue,
      hitems, rfl⟩

end

/-! ### Condition sets -/

variable {mode : Except Error AliasMode} {tableAlias : Value}
  (hlead : leading objects t mode tableAlias = .ok lead)
include hlead

theorem compileBy_dict_eq_error (es : List (Value × Value)) (serial : Nat) (e : Error) :
    (compileBy objects r t (.dict es serial) mode tableAlias feeds).result = .error e ↔
      (es.mapM (fragment objects r t lead) feeds).result = .error e := by
  by_cases hes : es = []
  · subst hes
    exact ⟨nofun, nofun⟩
  · rw [compileBy_dict_of_lead hes hlead, bind_result_eq_error]
    simp

/-- Of other conditions than dictionaries nothing is handed over. -/
theorem untransformed_compileBy (h : ∀ es serial, conditions ≠ .dict es serial) :
    (compileBy objects r t conditions mode tableAlias).Untransformed := by
  obtain ⟨m, rfl, -⟩ := leading_eq_ok.mp hlead
  refine .bind (untransformed_liftM _) fun isTrue => .ite (fun _ => .pure fun _ _ => trivial) ?_
  intro _
  change Untransformed ((liftM (qualifier objects m t tableAlias) : Action Feeds String) >>= _)
  refine .bind (untransformed_liftM _) fun lead => ?_
  refine .bind (.liftedFault fun f _ => nofun) fun es => ?_
  refine .given fun hes => ?_
  obtain ⟨serial, rfl⟩ := Value.mapping_eq_ok hes
  exact absurd rfl (h es serial)

theorem compileBy_blamesCulprits (hr : r.handler = Operators.builtin.handler objects)
    (conditions : Value) (feeds : Feeds) :
    BlamesCulprits objects .store (HandsSome objects r t feeds conditions)
      (HandsAll objects r t feeds conditions)
      (compileBy objects r t conditions mode tableAlias feeds).result := by
  by_cases h : ∀ es serial, conditions ≠ .dict es serial
  · refine ⟨fun e he => ⟨fun hresult => ?_, ?_⟩, ?_⟩
    · exact absurd he ((untransformed_compileBy hlead h feeds trivial).error e hresult)
    · rintro ⟨cells, ⟨es, serial, rfl, -⟩, -⟩
      exact absurd rfl (h es serial)
    · intro cells hcells e
      cases hcells with
      | none hfalse =>
        rw [compileBy, liftM_fault_bind_run, hfalse]
        exact ok_eq_error_iff
      | entries => exact absurd rfl (h _ _)
  · simp only [ne_eq, not_forall, not_not] at h
    obtain ⟨es, serial, rfl⟩ := h
    have hes := ((handsOver_fragment hr lead).blamesCulprits feeds es).congr
      (compileBy_dict_eq_error hlead es serial)
    refine ⟨fun e he => (hes.transformation e he).trans ⟨?_, ?_⟩, ?_⟩
    · rintro ⟨cells, hcells, hblames⟩
      exact ⟨cells, ⟨es, serial, rfl, hcells⟩, hblames⟩
    · rintro ⟨cells, ⟨_, _, ⟨⟩, hcells⟩, hblames⟩
      exact ⟨cells, hcells, hblames⟩
    · intro cells hcells
      cases hcells with
      | none hfalse =>
        cases es with
        | nil => exact hes.any [] ⟨feeds, .nil feeds⟩
        | cons e es => cases hfalse
      | entries hall => exact hes.any cells ⟨_, hall⟩

end Where

/-! ### Assignments -/

namespace Update

/-- What an UPDATE hands to the transformer of a column: the value that its source gives, if the
column is supplied and not excluded. -/
inductive Hands (objects : Objects) (source : Value) (supplied : List Value) :
    Unit → Column → List (Column × Value) → Unit → Prop
  | excluded {c : Column} (h : c.excludeFromUpdate.truth objects = .ok true) :
    Hands objects source supplied () c [] ()
  | absent {c : Column} (h : c.excludeFromUpdate.truth objects = .ok false)
    (hs : (supplied.any fun k => k.text? = some c.propertyKey) = false) :
    Hands objects source supplied () c [] ()
  | assigned {c : Column} {v : Value} (h : c.excludeFromUpdate.truth objects = .ok false)
    (hs : (supplied.any fun k => k.text? = some c.propertyKey) = true)
    (hv : Source.Gives objects source c.propertyKey v) :
    Hands objects source supplied () c [(c, v)] ()

/-- What an UPDATE hands over until it ends: values for some of the first columns, or for all of
them, if there are any, and for some of the first conditions. -/
inductive HandsSome (ctx : Context) (u : Update) (t : Table) (keys : List Value) (feeds : Feeds) :
    List (Column × Value) → Prop
  | columns {cells : List (Column × Value)}
    (h : HandsFirst (Hands ctx.objects u.source keys) () t.columns cells) :
    HandsSome ctx u t keys feeds cells
  | conditions {cells rest : List (Column × Value)} {s : Unit}
    (h : HandsEach (Hands ctx.objects u.source keys) () t.columns cells s) (hne : cells ≠ [])
    (hs : Where.HandsSome ctx.objects (Where.reading ctx u.config) t feeds u.conditions rest) :
    HandsSome ctx u t keys feeds (cells ++ rest)

/-- What an UPDATE hands over in all: values for its columns, and those of its conditions. -/
inductive HandsAll (ctx : Context) (u : Update) (t : Table) (keys : List Value) (feeds : Feeds) :
    List (Column × Value) → Prop
  | mk {cells rest : List (Column × Value)} {s : Unit}
    (h : HandsEach (Hands ctx.objects u.source keys) () t.columns cells s) (hne : cells ≠ [])
    (hs : Where.HandsAll ctx.objects (Where.reading ctx u.config) t feeds u.conditions rest) :
    HandsAll ctx u t keys feeds (cells ++ rest)

variable {objects : Objects} {source : Value} {supplied : List Value}

theorem handsOver_assignment : HandsOver objects .store (Hands objects source supplied)
    fun c => (liftM (assignment objects source supplied c) : Action Unit _) where
  error_iff := by
    rintro _ c _ _ h e
    rw [liftM_run, assignment]
    cases h with
    | excluded h =>
      rw [h]
      exact ok_eq_error_iff
    | absent h hs =>
      rw [h, hs]
      exact ok_eq_error_iff
    | @assigned _ v h hs hv =>
      rw [h, hs, Source.cell_of_gives hv, blames_singleton]
      change _ ↔ Column.stored objects (some c) v = .error e
      cases Column.stored objects (some c) v <;> simp [Except.mapError, pure, Except.pure]
  state _ _ _ := rfl
  hands := by
    intro _ c h
    rw [liftM_run, assignment] at h
    cases hexcluded : c.excludeFromUpdate.truth objects with
    | error f =>
      rw [hexcluded] at h
      cases h _ rfl
    | ok isExcluded =>
      rw [hexcluded] at h
      cases isExcluded with
      | true => exact ⟨[], (), .excluded hexcluded⟩
      | false =>
        cases hs : supplied.any fun k => k.text? = some c.propertyKey with
        | false => exact ⟨[], (), .absent hexcluded hs⟩
        | true =>
          rw [hs] at h
          obtain ⟨v, hv⟩ := Source.exists_gives fun e he => h e (by rw [he]; rfl)
          exact ⟨[(c, v)], (), .assigned hexcluded hs hv⟩

/-- The columns that are assigned are those whose values are handed over. -/
theorem assigned_of_handsEach {l : List Column} {cells : List (Column × Value)} {s s' : Unit}
    (h : HandsEach (Hands objects source supplied) s l cells s')
    {assigned : List (Option (Column × Value))}
    (ha : l.mapM (assignment objects source supplied) = .ok assigned) :
    (assigned.filterMap id).map (·.1) = cells.map (·.1) := by
  induction h generalizing assigned with
  | nil s =>
    cases ha
    rfl
  | cons hc _ ih =>
    rw [List.mapM_cons] at ha
    obtain ⟨o, ho, ha⟩ := bind_eq_ok.mp ha
    obtain ⟨assigned, hassigned, ha⟩ := bind_eq_ok.mp ha
    cases ha
    rw [assignment] at ho
    cases hc with
    | excluded h =>
      rw [h] at ho
      cases ho
      change (assigned.filterMap id).map (·.1) = _
      exact ih hassigned
    | absent h hs =>
      rw [h, hs] at ho
      cases ho
      change (assigned.filterMap id).map (·.1) = _
      exact ih hassigned
    | assigned h hs hv =>
      rw [h, hs] at ho
      simp only [Except.mapError, ok_bind, Bool.false_eq_true, if_false, if_true] at ho
      obtain ⟨p, -, ho⟩ := bind_eq_ok.mp ho
      cases ho
      exact congrArg (List.cons _) (ih hassigned)

variable {ctx : Context} {u : Update} {feeds : Feeds} {t : Table} {keys : List Value} {e : Error}

/-- A build fails with its assignments, for the lack of any, or with its conditions. -/
theorem build_eq_error (ht : ctx.registry.table ctx.objects u.entity = .ok t)
    (hk : (Update.supplied ctx.objects u.source feeds).result = .ok keys) :
    (u.build ctx feeds).result = .error e ↔
      assignments ctx.objects t u.source keys = .error e ∨
      ∃ assigned, assignments ctx.objects t u.source keys = .ok assigned ∧
        (assigned = [] ∧ e = .nothingToSet t.name ∨ assigned ≠ [] ∧
          (Where.compile ctx u.config t u.conditions u.mode .null
            (u.feedsAfter ctx feeds)).result = .error e) := by
  rw [build, liftM_bind_run, ht]
  dsimp only
  rw [bind_run_of_ok hk]
  change ((liftM (assignments ctx.objects t u.source keys) >>= _ : Action Feeds Statement)
    (u.feedsAfter ctx feeds)).result = _ ↔ _
  rw [liftM_bind_run]
  rcases assignments ctx.objects t u.source keys with e' | _ | ⟨a, assigned⟩
  · simp
  · simp [eq_comm]
  · simp only [List.isEmpty_cons, Bool.false_eq_true, if_false, Except.ok.injEq, exists_eq_left',
      ne_eq, reduceCtorEq, false_and, false_or, not_false_eq_true, true_and]
    rw [bind_result_eq_error]
    refine or_iff_left ?_
    rintro ⟨conditions, -, h⟩
    cases h

theorem assignments_blamesCulprits (objects : Objects) (t : Table) (source : Value)
    (supplied : List Value) :
    BlamesCulprits objects .store (HandsFirst (Hands objects source supplied) () t.columns)
      (fun cells => ∃ s, HandsEach (Hands objects source supplied) () t.columns cells s)
      (assignments objects t source supplied) := by
  refine (blamesCulprits_of_computes handsOver_assignment t.columns).congr fun e => ?_
  rw [assignments]
  cases t.columns.mapM (assignment objects source supplied) <;> simp [pure, Except.pure]

/-- Assignments that are made hand over their values. -/
theorem handsEach_of_assignments {assigned : List (Column × Value)}
    (ha : assignments objects t source supplied = .ok assigned) :
    ∃ cells, HandsEach (Hands objects source supplied) () t.columns cells () := by
  obtain ⟨os, hos, -⟩ := bind_eq_ok.mp ha
  exact handsEach_of_computes handsOver_assignment hos

theorem assignments_eq_nil_iff {cells : List (Column × Value)} {s s' : Unit}
    (h : HandsEach (Hands objects source supplied) s t.columns cells s')
    {assigned : List (Column × Value)}
    (ha : assignments objects t source supplied = .ok assigned) : assigned = [] ↔ cells = [] := by
  obtain ⟨os, hos, ha⟩ := bind_eq_ok.mp ha
  cases ha
  rw [← List.map_eq_nil_iff (f := (·.1)), assigned_of_handsEach h hos, List.map_eq_nil_iff]

/-- A build whose columns hand over some cells fails with the first culprit among these, or else
with its conditions. -/
theorem build_eq_error_of_handsEach (ht : ctx.registry.table ctx.objects u.entity = .ok t)
    (hk : (Update.supplied ctx.objects u.source feeds).result = .ok keys)
    {cells : List (Column × Value)} {s : Unit}
    (h : HandsEach (Hands ctx.objects u.source keys) () t.columns cells s) (hne : cells ≠ []) :
    (u.build ctx feeds).result = .error e ↔ Blames ctx.objects .store cells e ∨
      (∀ e, ¬Blames ctx.objects .store cells e) ∧
        (Where.compile ctx u.config t u.conditions u.mode .null
          (u.feedsAfter ctx feeds)).result = .error e := by
  have hblames (e : Error) : assignments ctx.objects t u.source keys = .error e ↔
      Blames ctx.objects .store cells e :=
    (assignments_blamesCulprits ctx.objects t u.source keys).any cells ⟨s, h⟩ e
  rw [build_eq_error ht hk]
  simp only [← hblames]
  refine or_congr Iff.rfl ?_
  cases ha : assignments ctx.objects t u.source keys with
  | error e' => simp
  | ok assigned =>
    have hassigned : assigned ≠ [] := mt (assignments_eq_nil_iff h ha).mp hne
    simp [hassigned]

theorem blamesCulprits (hops : ctx.operators = .builtin)
    (ht : ctx.registry.table ctx.objects u.entity = .ok t)
    (hk : (Update.supplied ctx.objects u.source feeds).result = .ok keys) :
    BlamesCulprits ctx.objects .store (HandsSome ctx u t keys (u.feedsAfter ctx feeds))
      (HandsAll ctx u t keys (u.feedsAfter ctx feeds)) (u.build ctx feeds).result := by
  have hcolumns := assignments_blamesCulprits ctx.objects t u.source keys
  have hlead : ∃ lead, Where.leading ctx.objects t (.ok u.mode) .null = .ok lead := by
    cases u.mode <;> exact ⟨_, rfl⟩
  obtain ⟨lead, hlead⟩ := hlead
  have hreading : (Where.reading ctx u.config).handler = Operators.builtin.handler ctx.objects := by
    rw [← hops]
    rfl
  have hconditions := Where.compileBy_blamesCulprits hlead hreading u.conditions
    (u.feedsAfter ctx feeds)
  refine ⟨fun e he => ⟨fun h => ?_, ?_⟩, ?_⟩
  · rcases (build_eq_error ht hk).mp h with h | ⟨assigned, ha, ⟨-, rfl⟩ | ⟨hne, h⟩⟩
    · obtain ⟨cells, hcells, hblames⟩ := (hcolumns.transformation e he).mp h
      exact ⟨cells, .columns hcells, hblames⟩
    · cases he
    · obtain ⟨cells, hcells⟩ := handsEach_of_assignments ha
      obtain ⟨rest, hrest, hblames⟩ := (hconditions.transformation e he).mp h
      have hnone : ∀ e', ¬Blames ctx.objects .store cells e' := fun e' he' =>
        nomatch ha.symm.trans ((hcolumns.any cells ⟨(), hcells⟩ e').mpr he')
      have hne' : cells ≠ [] := mt (assignments_eq_nil_iff hcells ha).mpr hne
      refine ⟨cells ++ rest, .conditions hcells hne' hrest, ?_⟩
      exact blames_append.mpr (.inr ⟨hnone, hblames⟩)
  · rintro ⟨_, hcells | ⟨hcells, hne, hrest⟩, hblames⟩
    · have hassignments := (hcolumns.transformation e he).mpr ⟨_, hcells, hblames⟩
      exact (build_eq_error ht hk).mpr (.inl hassignments)
    · rw [build_eq_error_of_handsEach ht hk hcells hne]
      refine (blames_append.mp hblames).imp_right (And.imp_right fun hblames => ?_)
      exact (hconditions.transformation e he).mpr ⟨_, hrest, hblames⟩
  · rintro _ ⟨hcells, hne, hrest⟩ e
    rw [build_eq_error_of_handsEach ht hk hcells hne, blames_append]
    exact or_congr Iff.rfl (and_congr_right fun _ => hconditions.any _ hrest e)

end Update

/-! ### Where transformers fail -/

/-- Each computation with transformers blames the first culprit. Cells are handed over row by row in
an INSERT; in an UPDATE for the assigned columns and then, condition by condition and item by item,
for the conditions; and in the order of the columns for what a row holds. Of what is handed over
until a computation ends, the first failure is its error, with the column, the direction and the
fault of the transformer; and where nothing else refuses a value or a condition, this is the only
error there is. Nothing else reaches a transformer: neither null, which is stored as null, nor what
is not handed over by a condition. -/
theorem culprits_are_blamed (ctx : Context) (hops : ctx.operators = .builtin) :
    (∀ (i : Insert) feeds rows t columns, i.rows = some rows → rows ≠ [] →
      ctx.registry.table ctx.objects i.entity = .ok t →
      Insert.columns ctx.objects t = .ok columns → columns ≠ [] →
      BlamesCulprits ctx.objects .store (HandsFirst (Source.Hands ctx.objects) () (rows ×ˢ columns))
        (fun cells => ∃ s, HandsEach (Source.Hands ctx.objects) () (rows ×ˢ columns) cells s)
        (i.build ctx feeds).result) ∧
    (∀ (u : Update) feeds t keys, ctx.registry.table ctx.objects u.entity = .ok t →
      (Update.supplied ctx.objects u.source feeds).result = .ok keys →
      BlamesCulprits ctx.objects .store (Update.HandsSome ctx u t keys (u.feedsAfter ctx feeds))
        (Update.HandsAll ctx u t keys (u.feedsAfter ctx feeds)) (u.build ctx feeds).result) ∧
    (∀ (m : Mapper) row feeds t lead, ctx.registry.table ctx.objects m.entity = .ok t →
      m.leadFor ctx.objects t = .ok lead →
      let extracted := (m.extract ctx.registry ctx.objects row feeds).result
      BlamesCulprits ctx.objects .load
        (HandsFirst (Mapper.Hands ctx.objects lead row) feeds t.columns)
        (fun cells => ∃ s, HandsEach (Mapper.Hands ctx.objects lead row) feeds t.columns cells s)
        extracted ∧
      ∀ es serial, row = .dict es serial →
        ∀ e, extracted = .error e ↔ Blames ctx.objects .load (Mapper.cells t lead es) e) ∧
    (∀ d cells, (∃ e, Blames ctx.objects d cells e) ↔
      ∃ x ∈ cells, ∃ cause, x.1.Fails ctx.objects x.2 d cause) ∧
    (∀ (condition : Condition) items feeds feeds', condition.Hands ctx.objects feeds items feeds' →
      ∀ bind bind' reference, (∀ v ∈ items, bind v = bind' v) →
        condition.make ctx.objects (ctx.operators.handler ctx.objects) reference bind feeds =
          condition.make ctx.objects (ctx.operators.handler ctx.objects) reference bind' feeds) ∧
    (∀ c, Column.stored ctx.objects (some c) .null = .ok .null) ∧
    (∀ (c : Column) (t t' : Transformer),
      (∀ v, v ≠ .null → t.store ctx.objects v = t'.store ctx.objects v) →
      ∀ v, Column.stored ctx.objects (some { c with transformer := some t }) v =
        Column.stored ctx.objects (some { c with transformer := some t' }) v) ∧
    ∀ name d cause, (Error.transformation name d cause).settled ctx.objects =
      .transformation name d cause ↔ ∃ text, cause.message ctx.objects.shown = .ok text := by
  refine ⟨?_, ?_, ?_, fun d cells => exists_blames_iff, ?_, fun c => Column.stored_null, ?_, ?_⟩
  · intro i feeds rows t columns hrows hne ht hc hcolumns
    exact Insert.blamesCulprits hrows hne ht hc hcolumns
  · intro u feeds t keys ht hk
    exact Update.blamesCulprits hops ht hk
  · intro m row feeds t lead ht hl extracted
    have hextract := Mapper.blamesCulprits ht hl row feeds
    refine ⟨hextract, ?_⟩
    rintro es serial rfl
    exact hextract.any _ ⟨feeds, Mapper.handsEach_dict es serial feeds t.columns⟩
  · intro condition items feeds feeds' h bind bind' reference heq
    exact Condition.make_congr (by rw [hops]) h heq reference
  · exact fun c t t' h => Column.stored_congr h
  · exact fun name d cause => Error.settled_transformation_iff

/-- A transformer that fails for all values. -/
def failing : Transformer :=
  ⟨"explode", fun _ _ => .error (.raised .value "boom"), fun _ _ => .error (.raised .value "boom")⟩

/-- A column without flags that is named by its key. -/
def keyColumn (key : String) (transformer : Option Transformer) : Column :=
  ⟨key, key, transformer, .bool false, .bool false⟩

/-- Pets whose names and ages can neither be stored nor loaded. -/
def failingTable : Table :=
  ⟨.cls (.plain "Pet"), "pets",
    [keyColumn "id" none, keyColumn "name" failing, keyColumn "age" failing], []⟩

def failingContext (objects : Objects) : Context :=
  ⟨⟨Holdings.put objects [] (.atom (.cls (.plain "Pet"))) (.cls (.plain "Pet")) failingTable, [],
    []⟩, Operators.builtin, objects, fun _ => none⟩

/-- The first pet has neither a name nor an age; a pattern for names and an age that is null in a
condition are no culprits either. -/
theorem culprits_are_blamed_pets :
    let ctx := failingContext noObjects
    let boom column d := Error.transformation column d (.raised .value "boom")
    let i : Insert := ⟨.cls (.plain "Pet"), some [.dict [(.text "id", .int 1)],
      .dict [(.text "id", .int 2), (.text "age", .int 3), (.text "name", .text "Rex")]]⟩
    let u : Update := ⟨.cls (.plain "Pet"), .usual, .tableName,
      .dict [(.text "id", .int 7), (.text "age", .null)],
      .dict [(.text "name", .dict [(.text "$like", .text "R%")]),
        (.text "age", .dict [(.text "$in", .list [.null, .int 3])])]⟩
    let m : Mapper := ⟨.cls (.plain "Pet"), .null, .usual⟩
    let row := Value.dict [(.text "pets_age", .int 3), (.text "pets_id", .int 1)]
    (i.build ctx []).result = .error (boom "name" .store) ∧
      (u.build ctx []).result = .error (boom "age" .store) ∧
      (m.extract ctx.registry noObjects row []).result = .error (boom "age" .load) := by
  intro ctx boom i u m row
  let id := keyColumn "id" none
  let name := keyColumn "name" failing
  let age := keyColumn "age" failing
  obtain ⟨hinsert, hupdate, hextract, -⟩ := culprits_are_blamed ctx rfl
  refine ⟨?_, ?_, ?_⟩
  · have hblamed := hinsert i [] _ failingTable [id, name, age] rfl (by simp) rfl rfl (by simp)
    refine (hblamed.any [(id, .int 1), (name, .null), (age, .null), (id, .int 2),
      (name, .text "Rex"), (age, .int 3)] ⟨(), Source.handsEach_of_gives ?_⟩ _).mpr
      (mapM_converted_eq_error.mp rfl)
    refine .cons ⟨rfl, .entry rfl⟩ (.cons ⟨rfl, .noEntry rfl⟩ (.cons ⟨rfl, .noEntry rfl⟩ ?_))
    exact .cons ⟨rfl, .entry rfl⟩ (.cons ⟨rfl, .entry rfl⟩ (.cons ⟨rfl, .entry rfl⟩ .nil))
  · have hblamed := hupdate u [] failingTable [.text "id", .text "age"] rfl rfl
    have hassigned : HandsEach (Update.Hands noObjects u.source [.text "id", .text "age"]) ()
        failingTable.columns ([(id, .int 7)] ++ ([] ++ ([(age, .null)] ++ []))) () :=
      .cons (.assigned rfl rfl (.entry rfl))
        (.cons (.absent rfl rfl) (.cons (.assigned rfl rfl (.entry rfl)) (.nil ())))
    have hpattern : Where.Hands noObjects (Where.reading ctx .usual) failingTable []
        (.text "name", .dict [(.text "$like", .text "R%")]) [] [] :=
      ⟨some name, "name", .operator (.text "$like") (.text "R%"), [], .column rfl, rfl, .like _,
        rfl⟩
    have hitems : Where.Hands noObjects (Where.reading ctx .usual) failingTable []
        (.text "age", .dict [(.text "$in", .list [.null, .int 3])]) [(age, .null), (age, .int 3)]
        [] :=
      ⟨some age, "age", .operator (.text "$in") (.list [.null, .int 3]), [.null, .int 3],
        .column rfl, rfl, .among ⟨nofun, nofun, rfl, rfl, rfl⟩, rfl⟩
    refine (hblamed.any _ (.mk hassigned (by simp)
      (.entries (.cons hpattern (.cons hitems (.nil []))))) _).mpr ?_
    exact mapM_converted_eq_error.mp rfl
  · obtain ⟨-, hblamed⟩ := hextract m row [] failingTable "pets_" rfl rfl
    exact (hblamed _ _ rfl _).mpr (mapM_converted_eq_error.mp rfl)

/-- A failing value is not reached where a row before it cannot be read, or where a condition before
it is refused: the age of the second pet in an INSERT, and that in the second condition. -/
theorem culprits_out_of_reach :
    let ctx := failingContext (World.oddWorld ["__getattribute__"]).view
    let pet := Value.cls (.plain "Pet")
    let age := keyColumn "age" failing
    let rex := Value.dict [(.text "age", .int 3)]
    let i : Insert := ⟨pet, some [World.oddObject ["__getattribute__"], rex]⟩
    let u : Update := ⟨pet, .usual, .tableName, .dict [(.text "id", .int 7)],
      .dict [(.text "id", .dict [(.text "$in", .int 5)]), (.text "age", .int 3)]⟩
    (ctx.registry.table ctx.objects pet = .ok failingTable ∧
      Insert.columns ctx.objects failingTable = .ok failingTable.columns ∧
      age ∈ failingTable.columns ∧ Source.Gives ctx.objects rex age.propertyKey (.int 3) ∧
      age.Fails ctx.objects (.int 3) .store (.raised .value "boom")) ∧
    (i.build ctx []).result = .error (.fault (.notCallable "int")) ∧
      (u.build ctx []).result = .error (.notSequence "pets.id") :=
  ⟨⟨rfl, rfl, by simp [failingTable], .entry rfl, .store rfl nofun rfl⟩, rfl, rfl⟩

end RecordSql
