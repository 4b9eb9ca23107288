import RecordSql.Proofs.Statement.Conjunction

/-! Shorthands: a condition with a built-in operator is spelled with a function or with its token.
Both spellings are the same condition, but that the function which looks a column up among items
gathers them when it is called. So it takes what can be gone through at all, a text for its letters
among others, while behind the token no text will do. -/

namespace RecordSql

open RecordSql.Action

/-! ### Two spellings -/

namespace Shorthand

/-- The condition set in which the result of a shorthand stands under a key. -/
def spelled (objects : Objects) (h : Shorthand) (key operand : Value) : Action Feeds Value := do
  return .dict [(key, ← h.call objects [operand])]

/-- The condition set in which an operand stands behind the token of a shorthand. -/
def written (h : Shorthand) (key operand : Value) : Value :=
  .dict [(key, .dict [(.text h.token, operand)])]

theorem isToken_token (h : Shorthand) : Operators.isToken h.token = true := by
  cases h
  all_goals rfl

theorem call_singleton (objects : Objects) (h : Shorthand) (operand : Value) :
    h.call objects [operand] = h.apply objects operand := by
  cases h
  all_goals rfl

theorem apply_of_ne {objects : Objects} {h : Shorthand} (hne : h ≠ isIn) (operand : Value) :
    h.apply objects operand = pure (.operator (.text h.token) operand) := by
  cases h with
  | isIn => contradiction
  | _ => rfl

end Shorthand

namespace Condition

variable {objects : Objects} {strict : Except Fault Bool} {key operand : Value}

/-- A mapping of one token is an operator, and no report is made of it. -/
theorem ofValue_singleton {token : String} (ht : Operators.isToken token = true) (serial : Nat) :
    ofValue objects strict key (.dict [(.text token, operand)] serial) =
      pure (operator (.text token) operand) := by
  have hentries : operatorEntries objects [(.text token, operand)] = .ok [(token, operand)] := by
    simp [operatorEntries, ht, pure, Except.pure]
  rw [ofValue, hentries]
  rfl

end Condition

namespace Where

section

variable {objects : Objects} {r : Reading} {t : Table} {mode : Except Error AliasMode}
  {tableAlias key token operand : Value} {feeds : Feeds}

/-! ### Single operators -/

/-- The column of a key and the reference to it. -/
def place (objects : Objects) (r : Reading) (t : Table) (mode : Except Error AliasMode)
    (tableAlias key : Value) : Action Feeds (Option Column × String) := do
  let lead ← leading objects t mode tableAlias
  let column ← columnFor objects r t key
  return (column, lead ++ (← columnName objects column key))

/-- To look a column up, the feeds are neither read nor changed. -/
theorem columnFor_run (objects : Objects) (r : Reading) (t : Table) (key : Value) (feeds : Feeds) :
    columnFor objects r t key feeds =
      ⟨(columnFor objects r t key []).result, feeds, (columnFor objects r t key []).log⟩ := by
  simp only [columnFor, liftM_fault_bind_run]
  cases t.column? objects key with
  | error f => rfl
  | ok column =>
    cases column with
    | some c => rfl
    | none =>
      simp only [liftM_fault_bind_run]
      rcases r.strict with f | _ | _
      all_goals rfl

theorem place_run (objects : Objects) (r : Reading) (t : Table) (mode : Except Error AliasMode)
    (tableAlias key : Value) (feeds : Feeds) :
    place objects r t mode tableAlias key feeds =
      ⟨(place objects r t mode tableAlias key []).result, feeds,
        (place objects r t mode tableAlias key []).log⟩ := by
  simp only [place, liftM_bind_run]
  cases leading objects t mode tableAlias with
  | error e => rfl
  | ok lead =>
    dsimp only
    rw [bind_run, bind_run, columnFor_run objects r t key feeds]
    rcases columnFor objects r t key [] with ⟨_ | column, _, log⟩
    · rfl
    · dsimp only
      rw [liftM_fault_bind_run, liftM_fault_bind_run]
      cases columnName objects column key with
      | error f => rfl
      | ok name => rfl

/-- A condition set of one operator is what the handler of its token makes of the place of the
key. -/
theorem compileBy_operator {v : Value} {serial : Nat}
    (hv : Condition.ofValue objects r.strict key v = pure (.operator token operand)) :
    compileBy objects r t (.dict [(key, v)] serial) mode tableAlias = (do
      let p ← place objects r t mode tableAlias key
      let handle ← r.handler token
      return joined [← handle objects p.2 operand (Column.stored objects p.1)]) := by
  rw [compileBy_dict (by simp), place]
  simp only [List.mapM_cons, List.mapM_nil, fragment_eq, hv, Condition.make, pure_bind, bind_assoc]

theorem compileBy_written (h : Shorthand) :
    compileBy objects r t (h.written key operand) mode tableAlias = (do
      let p ← place objects r t mode tableAlias key
      let handle ← r.handler (.text h.token)
      return joined [← handle objects p.2 operand (Column.stored objects p.1)]) :=
  compileBy_operator (Condition.ofValue_singleton h.isToken_token 0)

/-- An operator that is given as such is compiled as the mapping that it stands for. -/
theorem compileBy_given (h : Shorthand) {serial serial' : Nat} :
    compileBy objects r t (.dict [(key, .operator (.text h.token) operand serial)] serial') mode
        tableAlias =
      compileBy objects r t (h.written key operand) mode tableAlias := by
  rw [compileBy_written]
  exact compileBy_operator rfl

/-- A shorthand but the one for items leaves its operand to the handler. -/
theorem compileBy_spelled_of_ne {h : Shorthand} (hne : h ≠ .isIn) :
    (do compileBy objects r t (← h.spelled objects key operand) mode tableAlias) =
      compileBy objects r t (h.written key operand) mode tableAlias := by
  simp only [Shorthand.spelled, Shorthand.call_singleton, Shorthand.apply_of_ne hne, pure_bind]
  exact compileBy_given h

/-- The shorthand for items gathers them before anything else is looked at. -/
theorem compileBy_spelled_isIn :
    (do compileBy objects r t (← Shorthand.isIn.spelled objects key operand) mode tableAlias) = (do
      let items ← operand.elements objects
      compileBy objects r t (Shorthand.isIn.written key (.list items)) mode tableAlias) := by
  simp only [Shorthand.spelled, Shorthand.call_singleton, Shorthand.apply, pure_bind, bind_assoc]
  exact bind_congr fun items => compileBy_given .isIn

end

end Where

/-! ### Items -/

/-- A value that counts as a collection: neither a text nor bytes, and no object that hides its
class. -/
structure Value.IsCollection (objects : Objects) (v : Value) : Prop where
  notText : ∀ s, v ≠ .text s
  notBytes : ∀ bs, v ≠ .bytes bs
  shows : v.checkClass objects = .ok ()

namespace Value

variable {objects : Objects} {v : Value} {feeds : Feeds} {items : List Value}

theorem checkClass_of_isIterable {isIterable : Bool} (h : v.isIterable objects = .ok isIterable) :
    v.checkClass objects = .ok () := by
  cases v with
  | object i c =>
    obtain ⟨⟨⟩, hclass, -⟩ := bind_eq_ok.mp h
    exact hclass
  | _ => rfl

/-- What tells its class can be told from texts. -/
theorem checkKind_of_checkClass (h : v.checkClass objects = .ok ()) :
    v.checkKind objects = .ok () := by
  cases v with
  | object i c =>
    obtain ⟨found, hread, -⟩ := bind_eq_ok.mp h
    simp only [checkKind, attrOr, attr, attrBy, hread, Fault.ifPresent]
    rfl
  | _ => rfl

/-- A value that is no feed is gone through as it is. -/
theorem items_of_elements (hv : ∀ i, v ≠ .feed i)
    (h : (v.elements objects feeds).result = .ok items) : v.items objects = .ok items := by
  have helements : v.elements objects = Action.ofFault (v.items objects) := by
    cases v with
    | feed i => exact absurd rfl (hv i)
    | _ => rfl
  rw [helements] at h
  exact mapError_eq_ok.mp h

/-- An object that yields items and tells its class can be gone through. -/
theorem isIterable_of_elements (hclass : v.checkClass objects = .ok ())
    (h : (v.elements objects feeds).result = .ok items) : v.isIterable objects = .ok true := by
  have hitems := fun hv => items_of_elements (v := v) hv h
  cases v with
  | feed i => rfl
  | object i c =>
    have hitems : objectItems objects i c = .ok items := hitems nofun
    rw [isIterable, hclass, ok_bind]
    unfold objectItems at hitems
    cases hrule : objects.rule i "__iter__" with
    | usual =>
      rw [hrule] at hitems
      cases hfound : objects.items? i with
      | none =>
        rw [hfound] at hitems
        obtain ⟨_, _, hthrown⟩ := bind_eq_ok.mp hitems
        cases hthrown
      | some found => rfl
    | denied =>
      rw [hrule] at hitems
      cases hitems
    | other found =>
      rw [hrule] at hitems
      rcases found with f | v
      · obtain ⟨_, _, hthrown⟩ := bind_eq_ok.mp hitems
        cases hthrown
      · cases v
        all_goals cases hitems
  | _ =>
    exact congrArg (fun found => Except.ok found.isOk) (hitems nofun)

/-- A value is looked up among the items that it yields if it counts as a collection. -/
theorem gathers_iff (h : (v.elements objects feeds).result = .ok items) :
    v.Gathers objects feeds items ↔ v.IsCollection objects := by
  constructor
  · intro hv
    exact ⟨hv.notText, hv.notBytes, checkClass_of_isIterable hv.iterable⟩
  · intro hv
    exact ⟨hv.notText, hv.notBytes, checkKind_of_checkClass hv.shows,
      isIterable_of_elements hv.shows h, h⟩

end Value

/-- To gather the items first makes no difference to what is looked up among them. -/
theorem Handler.member_run_of_gathers {objects : Objects} {reference : String} {operand : Value}
    {bind : Binding} {feeds : Feeds} {items : List Value}
    (h : operand.Gathers objects feeds items) :
    member objects reference operand bind feeds =
      member objects reference (.list items) bind (operand.elements objects feeds).state := by
  have hlog : (operand.elements objects feeds).log = [] := Silent.elements objects operand feeds
  have hrun : operand.elements objects feeds =
      ⟨.ok items, (operand.elements objects feeds).state, []⟩ := by
    rw [← h.elements, ← hlog]
  have hopen : member objects reference operand bind = (do
      operand.checkKind objects
      if ← operand.isIterable objects then
        let items ← operand.elements objects
        if items.isEmpty then return ⟨"1 = 0", []⟩
        else
          let params ← (items.mapM bind : Except Error (List Value))
          return ⟨reference ++ " IN (" ++ placeholders items.length ++ ")", params⟩
      else Action.fail (.notSequence reference)) := by
    unfold member
    split
    · exact absurd rfl (h.notText _)
    · exact absurd rfl (h.notBytes _)
    · rfl
  rw [hopen, liftM_fault_bind_run, h.kind]
  dsimp only
  rw [liftM_fault_bind_run, h.iterable]
  dsimp only
  rw [if_pos rfl, bind_run_ok hrun]
  rfl

namespace Where

section

variable {objects : Objects} {r : Reading} {t : Table} {mode : Except Error AliasMode}
  {tableAlias key operand : Value} {feeds : Feeds} {items : List Value} {st : Statement}

theorem compileBy_written_isIn (hr : r.handler (.text "$in") = .ok Handler.member) :
    compileBy objects r t (Shorthand.isIn.written key operand) mode tableAlias = (do
      let p ← place objects r t mode tableAlias key
      return joined [← Handler.member objects p.2 operand (Column.stored objects p.1)]) := by
  rw [compileBy_written, show Shorthand.isIn.token = "$in" from rfl, hr]
  rfl

/-- What is written behind the token for items is accepted where the key has a place and the operand
gathers items. -/
theorem gathers_of_compileBy_written (hr : r.handler (.text "$in") = .ok Handler.member)
    (h : (compileBy objects r t (Shorthand.isIn.written key operand) mode tableAlias feeds).result =
      .ok st) :
    (∃ p, (place objects r t mode tableAlias key []).result = .ok p) ∧
      ∃ items, operand.Gathers objects feeds items := by
  rw [compileBy_written_isIn hr, bind_result_eq_ok] at h
  obtain ⟨p, hp, h⟩ := h
  rw [place_run] at hp h
  obtain ⟨f, hf, -⟩ := bind_result_eq_ok.mp h
  obtain ⟨items, hitems, -⟩ := Handler.member_eq_ok.mp hf
  exact ⟨⟨p, hp⟩, items, hitems⟩

/-- Where a key has a place, items are looked up alike whether they are gathered first or not. -/
theorem compileBy_written_list (hr : r.handler (.text "$in") = .ok Handler.member)
    {p : Option Column × String} (hp : (place objects r t mode tableAlias key []).result = .ok p)
    (h : operand.Gathers objects feeds items) :
    (do
        let items ← operand.elements objects
        compileBy objects r t (Shorthand.isIn.written key (.list items)) mode tableAlias :
          Action Feeds Statement) feeds =
      compileBy objects r t (Shorthand.isIn.written key operand) mode tableAlias feeds := by
  have hlog : (operand.elements objects feeds).log = [] := Silent.elements objects operand feeds
  have hplace (s : Feeds) : place objects r t mode tableAlias key s =
      ⟨.ok p, s, (place objects r t mode tableAlias key []).log⟩ := by
    rw [place_run, hp]
  have hrun (x : Value) (s : Feeds) :
      compileBy objects r t (Shorthand.isIn.written key x) mode tableAlias s =
        let o := (do
          return joined [← Handler.member objects p.2 x (Column.stored objects p.1)] :
            Action Feeds Statement) s
        ⟨o.result, o.state, (place objects r t mode tableAlias key []).log ++ o.log⟩ := by
    rw [compileBy_written_isIn hr, bind_run_ok (hplace s)]
  rw [bind_run_of_ok h.elements, hlog, hrun, hrun, List.nil_append]
  simp only [bind_run, Handler.member_run_of_gathers h]

end

/-- Both spellings of an operator are one condition, but for the function that gathers items, which
stands for the list of them. Behind the token only a collection is accepted, and then both spellings
agree; the function accepts whatever yields items. -/
theorem compileBy_spelled (objects : Objects) (r : Reading) (t : Table)
    (mode : Except Error AliasMode) (tableAlias key operand : Value) :
    let spelled (h : Shorthand) : Action Feeds Statement := do
      compileBy objects r t (← h.spelled objects key operand) mode tableAlias
    let written (h : Shorthand) (operand : Value) : Action Feeds Statement :=
      compileBy objects r t (h.written key operand) mode tableAlias
    (∀ h, h ≠ .isIn → spelled h = written h operand) ∧
      (spelled .isIn = do written .isIn (.list (← operand.elements objects))) ∧
      (r.handler (.text "$in") = .ok Handler.member → ∀ feeds st,
        ((written .isIn operand feeds).result = .ok st ↔
          operand.IsCollection objects ∧ (spelled .isIn feeds).result = .ok st) ∧
        ((written .isIn operand feeds).result = .ok st →
          spelled .isIn feeds = written .isIn operand feeds)) := by
  intro spelled written
  refine ⟨fun h hne => compileBy_spelled_of_ne hne, compileBy_spelled_isIn, fun hr feeds st => ?_⟩
  have hgathered :
      spelled .isIn = (do written .isIn (.list (← operand.elements objects))) :=
    compileBy_spelled_isIn
  have hequal (h : (written .isIn operand feeds).result = .ok st) :
      spelled .isIn feeds = written .isIn operand feeds := by
    obtain ⟨⟨p, hp⟩, items, hitems⟩ := gathers_of_compileBy_written hr h
    rw [hgathered]
    exact compileBy_written_list hr hp hitems
  refine ⟨⟨fun h => ?_, fun ⟨hcollection, h⟩ => ?_⟩, hequal⟩
  · obtain ⟨-, items, hitems⟩ := gathers_of_compileBy_written hr h
    refine ⟨(Value.gathers_iff hitems.elements).mp hitems, ?_⟩
    rw [hequal h]
    exact h
  · rw [hgathered] at h
    obtain ⟨items, hitems, hlist⟩ := bind_result_eq_ok.mp h
    obtain ⟨⟨p, hp⟩, -⟩ := gathers_of_compileBy_written hr hlist
    have hgathers := (Value.gathers_iff hitems).mpr hcollection
    rw [← h]
    exact congrArg Outcome.result (compileBy_written_list hr hp hgathers).symm

/-- A feed of two numbers: both spellings look a pet up among them, and leave nothing of the
feed. -/
theorem compileBy_spelled_feed :
    let written : Action Feeds Statement :=
      compileBy noObjects (reading petContext .usual) petTable
        (Shorthand.isIn.written (.text "id") (.feed 0)) (.ok .none) .null
    let spelled : Action Feeds Statement := do
      compileBy noObjects (reading petContext .usual) petTable
        (← Shorthand.isIn.spelled noObjects (.text "id") (.feed 0)) (.ok .none) .null
    (written [[.int 1, .int 2]]).result = .ok ⟨"pet_id IN (?, ?)", [.int 1, .int 2]⟩ ∧
      spelled [[.int 1, .int 2]] = written [[.int 1, .int 2]] := by
  intro written spelled
  have hwritten : (written [[.int 1, .int 2]]).result =
      .ok ⟨"pet_id IN (?, ?)", [.int 1, .int 2]⟩ := rfl
  obtain ⟨-, -, hin⟩ := compileBy_spelled noObjects (reading petContext .usual) petTable
    (.ok .none) .null (.text "id") (.feed 0)
  exact ⟨hwritten, (hin rfl [[.int 1, .int 2]] _).2 hwritten⟩

/-- A text behind the token is refused, but the function takes it for its letters. -/
theorem spelled_accepts_text :
    let written : Action Feeds Statement :=
      compileBy noObjects (reading petContext .usual) petTable
        (Shorthand.isIn.written (.text "id") (.text "ab")) (.ok .none) .null
    let spelled : Action Feeds Statement := do
      compileBy noObjects (reading petContext .usual) petTable
        (← Shorthand.isIn.spelled noObjects (.text "id") (.text "ab")) (.ok .none) .null
    (written []).result = .error (.notSequence "pet_id") ∧
      (spelled []).result = .ok ⟨"pet_id IN (?, ?)", [.text "a", .text "b"]⟩ := by
  intro written spelled
  have hletters : Text.letters "ab" = ["a", "b"] := by decide +kernel
  have hitems : (Value.text "ab").items noObjects = .ok [.text "a", .text "b"] := by
    rw [Value.items, hletters]
    rfl
  have helements : (Value.text "ab").elements noObjects [] =
      ⟨.ok [.text "a", .text "b"], [], []⟩ := by
    show Action.ofFault ((Value.text "ab").items noObjects) [] = _
    rw [hitems]
    rfl
  refine ⟨rfl, ?_⟩
  dsimp only [spelled]
  rw [compileBy_spelled_isIn, bind_run_ok helements]
  rfl

end Where

end RecordSql
