import RecordSql.Proofs.Registry.Call
import RecordSql.Proofs.Statement.Balance
import RecordSql.Proofs.Statement.Slots

/-! Placeholders: every statement that is made with the built-in operators is a template, written
with one placeholder for each slot, and what it binds are the values of these slots, in order. -/

namespace RecordSql

open RecordSql.Action RecordSql.Text

/-! ### Templates and what they give -/

/-- A text and values that come from a template: how it is written, and what its slots bind. -/
structure Template.Gives (objects : Objects) (t : Template) (query : String)
    (params : List Value) : Prop where
  query : query = t.write
  params : Slot.BindAll objects t.slots params

namespace Template.Gives

variable {objects : Objects} {t u : Template} {query query' : String} {params params' : List Value}

theorem nil : Gives objects [] "" [] := ⟨rfl, .nil⟩

theorem text (s : String) (h : t.Gives objects query params) :
    Gives objects (.text s :: t) (s ++ query) params := ⟨by rw [write_text, h.query], h.params⟩

/-- A text that binds nothing. -/
theorem ofText (objects : Objects) (s : String) : Gives objects [.text s] s [] :=
  ⟨String.append_empty.symm, .nil⟩

theorem slot {s : Slot} {v : Value} (hv : s.bound objects = .ok v)
    (h : t.Gives objects query params) :
    Gives objects (.slot s :: t) ("?" ++ query) (v :: params) :=
  ⟨by rw [write_slot, h.query], .cons hv h.params⟩

theorem append (h : t.Gives objects query params) (h' : u.Gives objects query' params') :
    Gives objects (t ++ u) (query ++ query') (params ++ params') :=
  ⟨by rw [write_append, h.query, h'.query], by
    rw [slots_append]
    exact List.rel_append h.params h'.params⟩

/-- A text that ends in the placeholder of a slot. -/
theorem trailing {s : String} (hq : query = s ++ "?") {c : Option Column} {v p : Value}
    (hp : Column.stored objects c v = .ok p) :
    Gives objects [.text s, .slot ⟨c, v⟩] query [p] := by
  have h := (nil.slot (s := ⟨c, v⟩) hp).text s
  rwa [String.append_empty, ← hq] at h

theorem separated (sep : String) {α : Type} {q : α → String} {ps : α → List Value} {l : List α}
    {ts : List Template} (h : List.Forall₂ (fun a t => Gives objects t (q a) (ps a)) l ts) :
    Gives objects (separated sep ts) (sep.intercalate (l.map q)) (l.flatMap ps) := by
  induction h with
  | nil => exact nil
  | @cons a t l ts ht hl ih =>
    cases hl with
    | nil => simpa [Template.separated] using ht
    | @cons b u l ts hu hl =>
      have h := ht.append (ih.text sep)
      rw [List.map_cons, List.map_cons, String.intercalate_cons_cons, String.append_assoc]
      exact h

theorem group {l : List Slot} (h : Slot.BindAll objects l params) :
    Gives objects (group l) ("(" ++ placeholders l.length ++ ")") params :=
  ⟨(write_group l).symm, by rwa [slots_group]⟩

theorem withWhere {conditions : Statement} (h : t.Gives objects query params)
    (h' : u.Gives objects conditions.query conditions.params) :
    Gives objects (withWhere t u) (Statement.withWhere query conditions)
      (params ++ conditions.params) := by
  refine ⟨?_, ?_⟩
  · rw [Template.withWhere, Statement.withWhere, h'.query]
    split
    · exact h.query
    · rw [write_append, write_text, h.query, String.append_assoc]
  · rw [slots_withWhere]
    exact List.rel_append h.params h'.params

end Template.Gives

/-! ### Operators -/

/-- A handler whose conditions are told by a pattern. -/
def Handler.FollowedBy (h : Handler) (pattern : Pattern) : Prop :=
  ∀ objects column reference operand,
    Follows (fun f t => Template.Gives objects t f.condition f.params)
      (h objects reference operand (Column.stored objects column))
      (pattern objects column reference operand)

namespace Handler

theorem followedBy_comparison (symbol : String) :
    (comparison symbol).FollowedBy (Pattern.comparison symbol) := by
  intro objects column reference operand
  exact .liftedLeft fun p hp => .pure (.trailing (by simp [String.append_assoc]) hp)

/-- The pattern is bound as it is. -/
theorem followedBy_like : like.FollowedBy Pattern.like := by
  intro objects column reference operand
  exact .pure (.trailing (by simp [String.append_assoc]) rfl)

theorem followedBy_null : null.FollowedBy Pattern.null := by
  intro objects column reference operand
  exact .same (.any _) fun isNull _ => .pure (.ofText objects _)

theorem followedBy_member : member.FollowedBy Pattern.member := by
  intro objects column reference operand
  unfold member
  split
  · exact .fail
  · exact .fail
  · refine .liftedFaultLeft fun _ _ => .liftedFaultLeft fun isIterable _ => ?_
    split
    · refine .same (.any _) fun items _ => .ite (fun _ => .pure ?_) fun _ => ?_
      · exact .ofText objects "1 = 0"
      · refine .liftedLeft fun params hp => .pure ?_
        have hslots : Slot.BindAll objects (items.map (⟨column, ·⟩)) params :=
          List.forall₂_map_left_iff.mpr (mapM_eq_ok.mp hp)
        have hquery : reference ++ " IN (" ++ placeholders items.length ++ ")" =
            reference ++ " IN " ++ ("(" ++ placeholders items.length ++ ")") := by
          rw [show " IN (" = " IN " ++ "(" from rfl]
          simp only [String.append_assoc, -String.reduceAppend]
        have h := (Template.Gives.group hslots).text (reference ++ " IN ")
        rwa [List.length_map, ← hquery] at h
    · exact .fail

end Handler

/-- Maps with the same keys in the same order tell related things of a key. -/
theorem Assoc.get?_related {κ α β : Type} [DecidableEq κ] {r : α → β → Prop} {m : Assoc κ α}
    {m' : Assoc κ β} (h : List.Forall₂ (fun e e' => e.1 = e'.1 ∧ r e.2 e'.2) m m') {k : κ} {a : α}
    (hk : get? m k = some a) : ∃ b, get? m' k = some b ∧ r a b := by
  induction h with
  | nil => cases hk
  | @cons e e' m m' he hm ih =>
    rw [get?] at hk ⊢
    rw [← he.1]
    by_cases hek : e.1 = k
    · rw [if_pos hek] at hk ⊢
      cases hk
      exact ⟨e'.2, rfl, he.2⟩
    · rw [if_neg hek] at hk ⊢
      exact ih hk

namespace Operators

theorem followedBy_builtin :
    List.Forall₂ (fun e e' => e.1 = e'.1 ∧ e.2.FollowedBy e'.2) builtin Pattern.builtin := by
  have hc := Handler.followedBy_comparison
  exact .cons ⟨rfl, hc "="⟩ <| .cons ⟨rfl, hc ">"⟩ <| .cons ⟨rfl, hc "<"⟩ <|
    .cons ⟨rfl, hc ">="⟩ <| .cons ⟨rfl, hc "<="⟩ <| .cons ⟨rfl, hc "!="⟩ <|
    .cons ⟨rfl, Handler.followedBy_like⟩ <| .cons ⟨rfl, Handler.followedBy_null⟩ <|
    .cons ⟨rfl, Handler.followedBy_member⟩ .nil

/-- A token of a built-in operator has a pattern that tells its conditions. -/
theorem exists_pattern {objects : Objects} {token : Value} {h : Handler}
    (hh : handler objects builtin token = .ok h) :
    ∃ pattern, token.text?.bind (Assoc.get? Pattern.builtin ·) = some pattern ∧
      h.FollowedBy pattern := by
  obtain ⟨s, rfl, hs⟩ := handler_eq_ok hh
  exact Assoc.get?_related followedBy_builtin hs

end Operators

/-! ### Conditions -/

namespace Where

variable {ctx : Context} {config : Config} {t : Table}

theorem follows_fragment (hops : ctx.operators = Operators.builtin) (lead : String)
    (entry : Value × Value) :
    Follows (fun f u => Template.Gives ctx.objects u f.condition f.params)
      (fragment ctx.objects (reading ctx config) t lead entry)
      (entryTemplate ctx.objects (reading ctx config) t lead entry) := by
  refine .same (.any _) fun column _ => .same (.any _) fun condition _ => ?_
  refine .same (.any _) fun name _ => ?_
  cases condition with
  | literal v =>
    exact .liftedLeft fun p hp => .pure (.trailing (by simp [String.append_assoc]) hp)
  | operator token operand =>
    refine .liftedLeft fun handle hh => ?_
    change ctx.operators.handler ctx.objects token = _ at hh
    rw [hops] at hh
    obtain ⟨pattern, hp, hfollow⟩ := Operators.exists_pattern hh
    dsimp only
    rw [hp]
    exact hfollow ctx.objects column (lead ++ name) operand

theorem follows_compile (hops : ctx.operators = Operators.builtin) (conditions : Value)
    (mode : AliasMode) (tableAlias : Value) :
    Follows (fun st u => Template.Gives ctx.objects u st.query st.params)
      (compile ctx config t conditions mode tableAlias)
      (template ctx config t conditions mode tableAlias) := by
  refine .same (.any _) fun isTrue _ => .ite (fun _ => .pure .nil) fun _ => ?_
  refine .liftedLeft fun mode' hm => ?_
  cases hm
  refine .same (.any _) fun lead _ => .same (.any _) fun entries _ => ?_
  exact .bind (.mapM fun entry _ => follows_fragment hops lead entry) fun fragments ts hts =>
    .pure (.separated " AND " hts)

end Where

/-! ### Statements -/

/-- What an action that makes a statement is followed by: a template that gives the statement. -/
def Action.ToldBy (objects : Objects) (x : Action Feeds Statement) (y : Action Feeds Template) :
    Prop :=
  Follows (fun st t => Template.Gives objects t st.query st.params) x y

variable {ctx : Context}

namespace Source

variable {objects : Objects} {source : Value}

theorem exists_slot {c : Column} {v : Value} (h : cell objects source c = .ok v) :
    ∃ s, slot objects source c = .ok s ∧ s.bound objects = .ok v := by
  obtain ⟨w, hw, h⟩ := bind_eq_ok.mp h
  exact ⟨⟨some c, w⟩, bind_eq_ok.mpr ⟨w, mapError_eq_ok.mp hw, rfl⟩, h⟩

theorem exists_slots {columns : List Column} {params : List Value}
    (h : bound objects columns source = .ok params) :
    ∃ slots, columns.mapM (slot objects source) = .ok slots ∧
      slots.length = columns.length ∧ Slot.BindAll objects slots params := by
  obtain ⟨slots, hs, hrel⟩ := mapM_related (fun _ _ _ hv => exists_slot hv) h
  exact ⟨slots, hs, (mapM_eq_ok.mp hs).length_eq.symm, hrel.flip⟩

end Source

/-- The groups of a batch, one for each row. -/
theorem Insert.gives_rows {objects : Objects} {columns : List Column}
    {params : List (List Value)} {rows : List (List Slot)}
    (h : List.Forall₂ (fun ps slots => slots.length = columns.length ∧
      Slot.BindAll objects slots ps) params rows) :
    Template.Gives objects (Template.separated ", " (rows.map Template.group))
      (commaSeparated (List.replicate params.length ("(" ++ placeholders columns.length ++ ")")))
      params.flatten := by
  have hgroups : List.Forall₂ (fun ps u =>
      Template.Gives objects u ("(" ++ placeholders columns.length ++ ")") (id ps))
      params (rows.map Template.group) := by
    refine List.forall₂_map_right_iff.mpr (h.imp fun ps slots hs => ?_)
    rw [← hs.1]
    exact .group hs.2
  have h := Template.Gives.separated ", " hgroups
  rwa [List.map_const', List.flatMap_id] at h

theorem Insert.toldBy_template (i : Insert) :
    ToldBy ctx.objects (i.build ctx) (i.template ctx) := by
  rcases i with ⟨entity, _ | _ | ⟨row, rows⟩⟩
  · exact .fail
  · exact .fail
  refine .same (.any _) fun t _ => .same (.any _) fun columns _ => ?_
  split
  · exact .fail
  refine .bind (r := fun params slots => params.length = (row :: rows).length ∧
    List.Forall₂ (fun ps slots => slots.length = columns.length ∧
      Slot.BindAll ctx.objects slots ps) params slots)
    (.lifted fun params hp => ?_) fun params slots hs => .reportLeft (.pure ?_)
  · obtain ⟨slots, hslots, hrel⟩ := mapM_related (fun _ _ _ h => Source.exists_slots h) hp
    exact ⟨slots, hslots, (mapM_eq_ok.mp hp).length_eq.symm, hrel⟩
  · have h := (Insert.gives_rows hs.2).text ("INSERT INTO " ++ t.name ++ "(" ++
      commaSeparated (columns.map (·.name)) ++ ") VALUES ")
    rwa [hs.1] at h

namespace Update

theorem exists_assignment {objects : Objects} {source : Value} {supplied : List Value}
    {c : Column} {o : Option (Column × Value)}
    (h : assignment objects source supplied c = .ok o) :
    ∃ u, assignmentTemplate objects source supplied c = .ok u ∧
      Option.Rel (fun e u => Template.Gives objects u (e.1.name ++ " = ?") [e.2]) o u := by
  obtain ⟨excluded, he, h⟩ := bind_eq_ok.mp h
  simp only [assignmentTemplate, mapError_eq_ok.mp he, ok_bind]
  split at h
  · cases h
    exact ⟨none, if_pos ‹_›, .none⟩
  · rw [if_neg ‹_›]
    split at h
    · rw [if_pos ‹_›]
      obtain ⟨v, hv, h⟩ := bind_eq_ok.mp h
      cases h
      obtain ⟨s, hs, hb⟩ := Source.exists_slot hv
      refine ⟨_, bind_eq_ok.mpr ⟨s, hs, rfl⟩, .some ?_⟩
      exact .trailing (by simp [String.append_assoc]) hb
    · cases h
      exact ⟨none, if_neg ‹_›, .none⟩

theorem exists_assignments {objects : Objects} {t : Table} {source : Value}
    {supplied : List Value} {assigned : List (Column × Value)}
    (h : assignments objects t source supplied = .ok assigned) :
    ∃ us, t.columns.mapM (assignmentTemplate objects source supplied) = .ok us ∧
      List.Forall₂ (fun e u => Template.Gives objects u (e.1.name ++ " = ?") [e.2]) assigned
        (us.filterMap id) := by
  obtain ⟨l, hl, h⟩ := bind_eq_ok.mp h
  cases h
  obtain ⟨us, hus, hrel⟩ := mapM_related (fun _ _ _ ho => exists_assignment ho) hl
  exact ⟨us, hus, List.rel_filterMap (fun _ _ h => h) hrel⟩

theorem toldBy_template (hops : ctx.operators = Operators.builtin) (u : Update) :
    ToldBy ctx.objects (u.build ctx) (u.template ctx) := by
  refine .same (.any _) fun t _ => .same (.any _) fun supplied _ => ?_
  refine .bind (.lifted fun assigned ha => exists_assignments ha) fun assigned us hus => ?_
  split
  · exact .fail
  refine .bind (Where.follows_compile hops _ _ _) fun conditions c hc => .reportLeft (.pure ?_)
  have h := (Template.Gives.separated ", " hus).text ("UPDATE " ++ t.name ++ " SET ")
  rw [← List.map_eq_flatMap] at h
  exact h.withWhere hc

end Update

theorem Delete.toldBy_template (hops : ctx.operators = Operators.builtin) (d : Delete) :
    ToldBy ctx.objects (d.build ctx) (d.template ctx) := by
  refine .same (.any _) fun t _ => ?_
  refine .bind (Where.follows_compile hops _ _ _) fun conditions u hu => ?_
  have h := Template.Gives.ofText ctx.objects ("DELETE FROM " ++ t.name)
  exact .reportLeft (.pure (h.withWhere hu))

theorem Select.toldBy_template (hops : ctx.operators = Operators.builtin) (s : Select) :
    ToldBy ctx.objects (s.build ctx) (s.template ctx) := by
  refine .same (.any _) fun t _ => .same (.any _) fun isGiven _ => ?_
  refine .same (.any _) fun tableAlias _ => .same (.any _) fun joins _ => ?_
  refine .bind (Where.follows_compile hops _ _ _) fun conditions u hu => ?_
  refine .same (.any _) fun ordering _ => .reportLeft (.pure ?_)
  have hhead := Template.Gives.ofText ctx.objects (head t tableAlias s.config.separator joins)
  have htail := ((Template.Gives.ofText ctx.objects
    (countClause .offset (s.offset.map toString))).text
    (countClause .limit (s.limit.map toString))).text ordering
  have h := (hhead.withWhere hu).append htail
  rwa [List.append_nil, ← String.append_assoc, ← String.append_assoc] at h

theorem Builder.toldBy_template (hops : ctx.operators = Operators.builtin) (b : Builder) :
    ToldBy ctx.objects (b.build ctx) (b.template ctx) := by
  cases b with
  | select s => exact s.toldBy_template hops
  | insert i => exact i.toldBy_template
  | update u => exact u.toldBy_template hops
  | delete d => exact d.toldBy_template hops

/-- A statement has as many placeholders as it binds values, whichever balanced handlers made its
conditions. With the built-in operators, it is a template with one placeholder for each slot, and
what it binds are the values of the slots from left to right. -/
theorem Builder.placeholders_correspond {b : Builder} {feeds : Feeds} {st : Statement}
    (h : (b.build ctx feeds).result = .ok st) :
    Operators.builtin.Balanced ∧
    (ctx.operators.Balanced → b.Plain ctx → marks st.query = st.params.length) ∧
    (ctx.operators = Operators.builtin →
      ∃ t : Template, (b.template ctx feeds).result = .ok t ∧
        st.query = t.write ∧
        List.Forall₂ (fun (s : Slot) v => Column.stored ctx.objects s.column s.value = .ok v)
          t.slots st.params ∧
        (b.Plain ctx → t.Plain ∧ marks st.query = t.slots.length)) := by
  refine ⟨Operators.balanced_builtin, fun hops hb => b.yields_build hops hb feeds st h, ?_⟩
  intro hops
  obtain ⟨t, ht, -, hquery, hparams⟩ := b.toldBy_template hops feeds st h
  refine ⟨t, ht, hquery, hparams, fun hb => ?_⟩
  have hp : t.Plain := plain_template hb feeds t ht
  exact ⟨hp, hquery ▸ hp.marks_write⟩

/-! ### A partial update -/

def petTable : Table :=
  ⟨.cls (.plain "Pet"), "pets", [⟨"id", "pet_id", none, .bool false, .bool true⟩,
    ⟨"name", "name", none, .bool false, .bool false⟩], []⟩

def petContext : Context :=
  ⟨⟨Holdings.put noObjects [] (.atom (.cls (.plain "Pet"))) (.cls (.plain "Pet")) petTable, [], []⟩,
    Operators.builtin, noObjects, fun _ => none⟩

/-- Renames two pets. -/
def petUpdate : Builder :=
  .update ⟨.cls (.plain "Pet"), .usual, .tableName,
    .dict [(.text "name", .text "Rex?")],
    .dict [(.text "id", .dict [(.text "$in", .list [.int 1, .int 2])])]⟩

theorem plain_petUpdate : petUpdate.Plain petContext := by
  rintro t ⟨⟩
  refine ⟨⟨by decide, by decide⟩, ?_⟩
  rintro entries ⟨⟩ e he
  obtain rfl := List.mem_singleton.mp he
  rintro ⟨⟩

/-- The mark in the new name is bound and is no placeholder. -/
theorem Builder.placeholders_petUpdate :
    let st : Statement := ⟨"UPDATE pets SET name = ? WHERE pets.pet_id IN (?, ?)",
      [.text "Rex?", .int 1, .int 2]⟩
    (petUpdate.build petContext []).result = .ok st ∧ marks st.query = st.params.length ∧
      ∃ t : Template, (petUpdate.template petContext []).result = .ok t ∧ st.query = t.write ∧
        t.Plain ∧ t.slots.length = 3 := by
  intro st
  have h : (petUpdate.build petContext []).result = .ok st := rfl
  obtain ⟨hbalanced, hcount, hslots⟩ := Builder.placeholders_correspond h
  obtain ⟨t, ht, hquery, hparams, hplain⟩ := hslots rfl
  exact ⟨h, hcount hbalanced plain_petUpdate, t, ht, hquery, (hplain plain_petUpdate).1,
    hparams.length_eq⟩

end RecordSql
