import RecordSql.Proofs.Computation
import RecordSql.Select

/-! What two views of the objects have in common. A view shows the objects as they are at one time:
where a value is looked up by name or asked for its truth, no two views disagree unless one of them
has no answer at all. -/

namespace RecordSql

namespace Value

/-- A value whose truth can be told counts as its kind does; an object counts as true. -/
theorem truth_eq_ok {objects : Objects} {v : Value} {b : Bool} (h : v.truth objects = .ok b) :
    b = v.truthy := by
  cases v with
  | object i c =>
    obtain ⟨-, -, h⟩ := bind_eq_ok.mp h
    obtain ⟨-, -, h⟩ := bind_eq_ok.mp h
    cases h
    rfl
  | _ => exact (Except.ok.inj h).symm

/-- What a value names is told by its text alone. -/
theorem sought_eq_ok {α : Type} {objects : Objects} {v : Value} {l : List α} {name : α → String}
    {o : Option α} (h : v.sought objects l name = .ok o) :
    o = l.find? fun a => v.text? = some (name a) := by
  cases l with
  | nil => exact (Except.ok.inj h).symm
  | cons a l =>
    obtain ⟨-, -, h⟩ := bind_eq_ok.mp h
    exact (Except.ok.inj h).symm

/-- Two values that count as the same text, and that two views of the objects write in the same
way, on their own and inside a text. -/
structure SameText (objects objects' : Objects) (v v' : Value) : Prop where
  text : v.text? = v'.text?
  written : v.written objects = v'.written objects'
  told : v.told objects = v'.told objects'

theorem sameText_text (objects objects' : Objects) (s : String) :
    (Value.text s).SameText objects objects' (.text s) := ⟨rfl, rfl, rfl⟩

theorem sameText_null (objects objects' : Objects) :
    null.SameText objects objects' null := ⟨rfl, rfl, rfl⟩

theorem shownItems_texts (w : ObjectText) (running : Running) (l : List String) :
    shownItems w running (l.map text) = .ok (l.map Text.quoted) := by
  induction l with
  | nil => simp [shownItems]
  | cons s l ih => simp [shownItems, shownWith, ih, pure, Except.pure]

/-- A list of texts is always shown. -/
theorem shown_texts_ok (objects : Objects) (l : List String) :
    (list (l.map text)).shown objects =
      .ok ("[" ++ commaSeparated (l.map Text.quoted) ++ "]") := by
  rw [shown, shownWith, shownItems_texts]
  rfl

/-- A list of texts is shown in the same way whatever the objects are. -/
theorem shown_texts (objects objects' : Objects) (l : List String) :
    (list (l.map text)).shown objects = (list (l.map text)).shown objects' :=
  (shown_texts_ok objects l).trans (shown_texts_ok objects' l).symm

end Value

/-- A token that has a handler is the text that it is registered under. -/
theorem Operators.handler_eq_ok {objects : Objects} {ops : Operators} {token : Value} {h : Handler}
    (hh : ops.handler objects token = .ok h) :
    ∃ s, token = .text s ∧ Assoc.get? ops s = some h := by
  obtain ⟨-, -, hh⟩ := bind_eq_ok.mp hh
  cases hf : ops.find? token with
  | none =>
    rw [hf] at hh
    cases hh
  | some h' =>
    rw [hf] at hh
    cases hh
    cases token with
    | text s => exact ⟨s, rfl, hf⟩
    | _ => cases hf

/-- Two contexts that differ in their view of the objects alone, and in which no entity has two
tables. -/
structure Context.Parallel (ctx ctx' : Context) : Prop where
  operators : ctx'.operators = ctx.operators
  scope : ctx'.scope = ctx.scope
  tables : ∀ entity t t', ctx.registry.table ctx.objects entity = .ok t →
    ctx'.registry.table ctx'.objects entity = .ok t' → t = t'

theorem Context.Parallel.refl (ctx : Context) : ctx.Parallel ctx :=
  ⟨rfl, rfl, fun _ _ _ h h' => Except.ok.inj (h.symm.trans h')⟩

namespace Context.Parallel

variable {ctx ctx' : Context} (h : ctx.Parallel ctx')
include h

/-- A relation is joined in the same way. -/
theorem join_eq {config : Config} {t : Table} {tableAlias : String} {request : JoinRequest}
    {j j' : Join} (hj : Join.expand ctx config t tableAlias request = .ok j)
    (hj' : Join.expand ctx' config t tableAlias request = .ok j') : j = j' := by
  obtain ⟨relation, hr, hj⟩ := bind_eq_ok.mp hj
  obtain ⟨relation', hr', hj'⟩ := bind_eq_ok.mp hj'
  obtain rfl : relation = relation' := (Value.sought_eq_ok (mapError_eq_ok.mp hr)).trans
    (Value.sought_eq_ok (mapError_eq_ok.mp hr')).symm
  cases relation with
  | none => cases hj
  | some r =>
    simp only [Join.expansion, ok_bind] at hj hj'
    obtain ⟨entity, he, hj⟩ := bind_eq_ok.mp hj
    obtain ⟨entity', he', hj'⟩ := bind_eq_ok.mp hj'
    rw [h.scope, he] at he'
    cases he'
    obtain ⟨target, ht, hj⟩ := bind_eq_ok.mp hj
    obtain ⟨target', ht', hj'⟩ := bind_eq_ok.mp hj'
    obtain rfl := h.tables entity target target' ht ht'
    exact Except.ok.inj (hj.symm.trans hj')

theorem joins_eq {config : Config} {t : Table} {tableAlias : String} {requests : List JoinRequest}
    {l l' : List Join} (hl : requests.mapM (Join.expand ctx config t tableAlias) = .ok l)
    (hl' : requests.mapM (Join.expand ctx' config t tableAlias) = .ok l') : l = l' := by
  have := mapM_agree (p := id) (q := id) (fun _ _ _ _ hj hj' => h.join_eq hj hj') hl hl'
  simpa using this

end Context.Parallel

/-- Keys of the same text have the same column and stand for the same name. -/
theorem Table.column_eq {objects objects' : Objects} {key key' : Value}
    (hk : key.SameText objects objects' key') {t : Table} {column column' : Option Column}
    (hc : t.column? objects key = .ok column) (hc' : t.column? objects' key' = .ok column') :
    column = column' := by
  rw [Value.sought_eq_ok hc, Value.sought_eq_ok hc', hk.text]

theorem Where.columnName_eq {objects objects' : Objects} {key key' : Value}
    (hk : key.SameText objects objects' key') (column : Option Column) :
    columnName objects column key = columnName objects' column key' := by
  cases column with
  | none => exact hk.written
  | some c => rfl

/-- Entries of an ordering are written in the same way. -/
theorem Select.orderClause_eq {objects objects' : Objects} {t : Table} {tableAlias : String}
    {es : List (Value × Except Fault String)} (hes : ∀ e ∈ es, e.1.SameText objects objects' e.1)
    {s s' : String} (hs : orderClause objects t tableAlias es = .ok s)
    (hs' : orderClause objects' t tableAlias es = .ok s') : s = s' := by
  cases es with
  | nil => exact Except.ok.inj (hs.symm.trans hs')
  | cons e es =>
    obtain ⟨l, hl, hs⟩ := bind_eq_ok.mp hs
    obtain ⟨l', hl', hs'⟩ := bind_eq_ok.mp hs'
    have hentry : ∀ e' ∈ e :: es, ∀ u u', orderEntry objects t tableAlias e' = .ok u →
        orderEntry objects' t tableAlias e' = .ok u' → id u = id u' := by
      intro e' he u u' hu hu'
      obtain ⟨column, hc, hu⟩ := bind_eq_ok.mp hu
      obtain ⟨column', hc', hu'⟩ := bind_eq_ok.mp hu'
      obtain rfl := Table.column_eq (hes e' he) hc hc'
      rw [Where.columnName_eq (hes e' he)] at hu
      exact Except.ok.inj (hu.symm.trans hu')
    have := mapM_agree hentry hl hl'
    rw [List.map_id, List.map_id] at this
    cases hs
    cases hs'
    rw [this]

end RecordSql
