import RecordSql.Proofs.Statement.Parts
import RecordSql.Proofs.Statement.Placeholders

/-! Secrecy: the values that a statement binds show neither in its text nor in what is reported
while it is made. Two builders of one kind whose inputs differ in these values only end in the same
text and the same records. -/

namespace RecordSql

open RecordSql.Action

/-- A notice as it is recorded: its level and its text. -/
def Notice.record (objects : Objects) (n : Notice) : Level × Except Fault String :=
  (n.level, n.message objects)

/-- The records of a log. -/
def records (objects : Objects) (log : List Notice) : List (Level × Except Fault String) :=
  log.map (Notice.record objects)

theorem records_append (objects : Objects) (log log' : List Notice) :
    records objects (log ++ log') = records objects log ++ records objects log' := List.map_append

/-- Statements of the same text that bind as many values. -/
structure Statement.Same (st st' : Statement) : Prop where
  query : st.query = st'.query
  count : st.params.length = st'.params.length

theorem Statement.Same.withWhere {st st' : Statement} (h : st.Same st') (text : String) :
    withWhere text st = withWhere text st' := by
  rw [Statement.withWhere, Statement.withWhere, h.query]

/-! ### Conditions -/

/-- Outlines of keys that are written in the same way, with the same tokens and the same form. -/
structure Outline.Same (objects objects' : Objects) (o o' : Outline) : Prop where
  key : o.key.SameText objects objects' o'.key
  tokens : o.tokens = o'.tokens
  form : o.form = o'.form

section

variable {objects objects' : Objects}

/-- The same is reported of the same outlines. -/
theorem Outline.Same.notices {o o' : Outline} (h : o.Same objects objects' o') (t : Table)
    (column : Option Column) :
    records objects (o.notices t column) = records objects' (o'.notices t column) := by
  have hkey : (Notice.verbatimKey o.key t.name).record objects =
      (Notice.verbatimKey o'.key t.name).record objects' := by
    simp only [Notice.record, Notice.level, Notice.message, h.key.told]
  have htokens : (Notice.severalOperators o.key o.tokens).record objects =
      (Notice.severalOperators o'.key o'.tokens).record objects' := by
    simp only [Notice.record, Notice.level, Notice.message, h.key.told, h.tokens,
      Value.shown_texts objects objects']
  rw [h.tokens] at htokens
  rw [Outline.notices, Outline.notices, h.tokens, records_append, records_append]
  cases column <;> cases o'.tokens.isEmpty <;> simp [records, hkey, htokens]

/-- Fragments that the same outlines tell have the same conditions and bind as many values. -/
theorem Outline.Tells.same {t : Table} {lead : String} {f f' : Fragment} {log log' : List Notice}
    {o o' : Outline} (h : Outline.Tells objects t lead f log o)
    (h' : Outline.Tells objects' t lead f' log' o') (ho : o.Same objects objects' o') :
    f.condition = f'.condition ∧ f.params.length = f'.params.length ∧
      records objects log = records objects' log' := by
  obtain ⟨⟨column, name, hc, hn, hcondition, rfl⟩, hcount⟩ := h
  obtain ⟨⟨column', name', hc', hn', hcondition', rfl⟩, hcount'⟩ := h'
  obtain rfl := Table.column_eq ho.key hc hc'
  rw [Where.columnName_eq ho.key, hn'] at hn
  cases hn
  exact ⟨by rw [hcondition, hcondition', ho.form], by rw [hcount, hcount', ho.form],
    ho.notices t column⟩

namespace Where

theorem same_joined {t : Table} {lead : String} {fs fs' : List Fragment} {log log' : List Notice}
    {os os' : List Outline} (h : Along (Outline.Tells objects t lead) fs log os)
    (h' : Along (Outline.Tells objects' t lead) fs' log' os')
    (ho : List.Forall₂ (Outline.Same objects objects') os os') :
    (joined fs).Same (joined fs') ∧ records objects log = records objects' log' := by
  have hparts : fs.map (·.condition) = fs'.map (·.condition) ∧
      (fs.flatMap (·.params)).length = (fs'.flatMap (·.params)).length ∧
      records objects log = records objects' log' := by
    induction ho generalizing fs fs' log log' with
    | nil =>
      cases h
      cases h'
      exact ⟨rfl, rfl, rfl⟩
    | cons ho _ ih =>
      cases h with
      | cons hf hfs =>
      cases h' with
      | cons hf' hfs' =>
      obtain ⟨hc, hp, hl⟩ := hf.same hf' ho
      obtain ⟨hcs, hps, hls⟩ := ih hfs hfs'
      refine ⟨by rw [List.map_cons, List.map_cons, hc, hcs], ?_, ?_⟩
      · rw [List.flatMap_cons, List.flatMap_cons, List.length_append, List.length_append, hp, hps]
      · rw [records_append, records_append, hl, hls]
  obtain ⟨hc, hp, hl⟩ := hparts
  exact ⟨⟨congrArg (" AND ".intercalate ·) hc, hp⟩, hl⟩

/-- Condition sets of the same outlines, each at what is left of the feeds. -/
def SameButValues (objects objects' : Objects) (feeds feeds' : Feeds)
    (conditions conditions' : Value) : Prop :=
  ∃ os os', (outlines objects conditions feeds).result = .ok os ∧
    (outlines objects' conditions' feeds').result = .ok os' ∧
    List.Forall₂ (Outline.Same objects objects') os os'

/-- Columns are named in the same way after an alias of the same text. -/
theorem qualifier_eq {mode : AliasMode} {t : Table} {a a' : Value}
    (ha : a.SameText objects objects' a') (htruthy : a.truthy = a'.truthy) {lead lead' : String}
    (h : qualifier objects mode t a = .ok lead) (h' : qualifier objects' mode t a' = .ok lead') :
    lead = lead' := by
  cases mode with
  | none => exact Except.ok.inj (h.symm.trans h')
  | tableName =>
    obtain ⟨s, hs, rfl⟩ := map_eq_ok.mp h
    obtain ⟨s', hs', rfl⟩ := map_eq_ok.mp h'
    obtain ⟨b, hb, hs⟩ := bind_eq_ok.mp hs
    obtain ⟨b', hb', hs'⟩ := bind_eq_ok.mp hs'
    obtain rfl : b = b' :=
      (Value.truth_eq_ok hb).trans (htruthy.trans (Value.truth_eq_ok hb').symm)
    rw [ha.written] at hs
    rw [Except.ok.inj (hs.symm.trans hs')]

end Where

end

variable {ctx ctx' : Context}

theorem Where.same_compile (hp : ctx.Parallel ctx') (hops : ctx.operators = Operators.builtin)
    {config : Config} {t : Table} {conditions conditions' : Value} {mode : AliasMode} {a a' : Value}
    (ha : a.SameText ctx.objects ctx'.objects a') (htruthy : a.truthy = a'.truthy)
    {feeds feeds' : Feeds}
    (hc : SameButValues ctx.objects ctx'.objects feeds feeds' conditions conditions')
    {st st' : Statement} (h : (compile ctx config t conditions mode a feeds).result = .ok st)
    (h' : (compile ctx' config t conditions' mode a' feeds').result = .ok st') :
    st.Same st' ∧ records ctx.objects (compile ctx config t conditions mode a feeds).log =
      records ctx'.objects (compile ctx' config t conditions' mode a' feeds').log := by
  have hops' : ctx'.operators = Operators.builtin := hp.operators.trans hops
  obtain ⟨os, os', hos, hos', hsame⟩ := hc
  obtain ⟨_, hb, -, lead, fs, hlead, rfl, hfs⟩ := mirrored_compile hops _ _ _ _ _ h
  obtain ⟨_, hb', -, lead', fs', hlead', rfl, hfs'⟩ := mirrored_compile hops' _ _ _ _ _ h'
  rw [hos] at hb
  rw [hos'] at hb'
  cases hb
  cases hb'
  generalize (compile ctx config t conditions mode a feeds).log = log at hfs ⊢
  generalize (compile ctx' config t conditions' mode a' feeds').log = log' at hfs' ⊢
  cases hsame with
  | nil =>
    cases hfs
    cases hfs'
    exact ⟨⟨rfl, rfl⟩, rfl⟩
  | cons ho hsame =>
    obtain rfl := qualifier_eq ha htruthy (hlead (List.cons_ne_nil _ _))
      (hlead' (List.cons_ne_nil _ _))
    exact same_joined hfs hfs' (.cons ho hsame)

/-! ### Statements -/

/-- SELECTs that differ in the values of their conditions only. -/
structure Select.SameButValues (ctx ctx' : Context) (feeds feeds' : Feeds) (s s' : Select) :
    Prop where
  rest : s' = { s with conditions := s'.conditions }
  tableAlias : s.tableAlias.SameText ctx.objects ctx'.objects s.tableAlias
  ordering : ∀ e ∈ Assoc.values s.ordering, e.1.SameText ctx.objects ctx'.objects e.1
  conditions :
    Where.SameButValues ctx.objects ctx'.objects feeds feeds' s.conditions s'.conditions

/-- INSERTs of as many rows. -/
structure Insert.SameButValues (i i' : Insert) : Prop where
  entity : i.entity = i'.entity
  rows : i.rows.map List.length = i'.rows.map List.length

/-- UPDATEs that differ in their values only: the sources supply the same properties. -/
structure Update.SameButValues (ctx ctx' : Context) (feeds feeds' : Feeds) (u u' : Update) :
    Prop where
  rest : u' = { u with source := u'.source, conditions := u'.conditions }
  keys : ∀ keys keys', (supplied ctx.objects u.source feeds).result = .ok keys →
    (supplied ctx'.objects u'.source feeds').result = .ok keys' →
    ∀ name, .text name ∈ keys ↔ .text name ∈ keys'
  conditions : Where.SameButValues ctx.objects ctx'.objects (u.feedsAfter ctx feeds)
    (u'.feedsAfter ctx' feeds') u.conditions u'.conditions

/-- DELETEs that differ in the values of their conditions only. -/
structure Delete.SameButValues (ctx ctx' : Context) (feeds feeds' : Feeds) (d d' : Delete) :
    Prop where
  rest : d' = { d with conditions := d'.conditions }
  conditions :
    Where.SameButValues ctx.objects ctx'.objects feeds feeds' d.conditions d'.conditions

/-- Builders of one kind whose inputs differ in the values to be bound only. -/
def Builder.SameButValues (ctx ctx' : Context) (feeds feeds' : Feeds) : Builder → Builder → Prop
  | .select s, .select s' => s.SameButValues ctx ctx' feeds feeds' s'
  | .insert i, .insert i' => i.SameButValues i'
  | .update u, .update u' => u.SameButValues ctx ctx' feeds feeds' u'
  | .delete d, .delete d' => d.SameButValues ctx ctx' feeds feeds' d'
  | _, _ => False

section

variable {feeds feeds' : Feeds} {st st' : Statement}

theorem Select.same_build (hp : ctx.Parallel ctx') (hops : ctx.operators = Operators.builtin)
    {s s' : Select} (h : s.SameButValues ctx ctx' feeds feeds' s')
    (hs : (s.build ctx feeds).result = .ok st) (hs' : (s'.build ctx' feeds').result = .ok st') :
    st.query = st'.query ∧ records ctx.objects (s.build ctx feeds).log =
      records ctx'.objects (s'.build ctx' feeds').log := by
  obtain ⟨hrest, halias, hordering, hconditions⟩ := h
  obtain ⟨conditions', hrest⟩ : ∃ c, s' = { s with conditions := c } := ⟨_, hrest⟩
  subst hrest
  obtain ⟨⟨t, given, tableAlias, joins, conditions, ordering⟩, hb⟩ := exists_built hs
  obtain ⟨⟨t', given', tableAlias', joins', conditions', ordering'⟩, hb'⟩ := exists_built hs'
  obtain rfl : t = t' := hp.tables _ _ _ hb.table hb'.table
  obtain rfl : given = given' := hb.given.trans hb'.given.symm
  have hgiven : given.SameText ctx.objects ctx'.objects given := by
    have := hb.given
    dsimp only at this
    rw [this]
    split
    · exact halias
    · exact Value.sameText_text _ _ _
  obtain rfl : tableAlias = tableAlias' :=
    Except.ok.inj (hb.tableAlias.symm.trans (hgiven.written.trans hb'.tableAlias))
  obtain rfl : joins = joins' := hp.joins_eq hb.joins hb'.joins
  obtain ⟨hc, hlog⟩ :=
    Where.same_compile hp hops hgiven rfl hconditions hb.conditions hb'.conditions
  have ho : ordering = ordering' := by
    refine Select.orderClause_eq ?_ hb.ordering hb'.ordering
    intro e he
    obtain ⟨e', he', rfl⟩ := List.mem_map.mp he
    exact hordering e' he'
  subst ho
  rw [hb.run] at hs
  rw [hb'.run] at hs'
  cases hs
  cases hs'
  rw [hb.run, hb'.run]
  refine ⟨?_, ?_⟩
  · simp only [Select.Parts.query, hc.withWhere]
  · rw [records_append, records_append, hlog, hc.count]
    rfl

theorem Insert.columns_eq {objects objects' : Objects} {t : Table} {l l' : List Column}
    (h : columns objects t = .ok l) (h' : columns objects' t = .ok l') : l = l' := by
  rw [columns_eq_filter h, columns_eq_filter h']

theorem Insert.same_build (hp : ctx.Parallel ctx') {i i' : Insert} (h : i.SameButValues i')
    (hi : (i.build ctx feeds).result = .ok st) (hi' : (i'.build ctx' feeds').result = .ok st') :
    st.query = st'.query ∧ records ctx.objects (i.build ctx feeds).log =
      records ctx'.objects (i'.build ctx' feeds').log := by
  obtain ⟨⟨rows, t, columns, params⟩, hb⟩ := exists_built hi
  obtain ⟨⟨rows', t', columns', params'⟩, hb'⟩ := exists_built hi'
  have htable := hb.table
  rw [h.entity] at htable
  obtain rfl : t = t' := hp.tables _ _ _ htable hb'.table
  obtain rfl : columns = columns' := columns_eq hb.columns hb'.columns
  have hrows : rows.length = rows'.length := by
    have := h.rows
    rw [hb.rows, hb'.rows] at this
    exact Option.some.inj this
  have hcount : params.flatten.length = params'.flatten.length := by
    rw [length_params hb.params, length_params hb'.params, hrows]
  rw [hb.run] at hi
  rw [hb'.run] at hi'
  cases hi
  cases hi'
  rw [hb.run, hb'.run]
  dsimp only
  rw [hrows, hcount]
  exact ⟨rfl, rfl⟩

/-- Whether a text is among some keys. -/
theorem any_text_iff {keys : List Value} {name : String} :
    (keys.any fun k => k.text? = some name) = true ↔ .text name ∈ keys := by
  rw [List.any_eq_true]
  constructor
  · rintro ⟨k, hk, hkey⟩
    cases k with
    | text s => exact Option.some.inj (of_decide_eq_true hkey) ▸ hk
    | _ => cases of_decide_eq_true hkey
  · exact fun hk => ⟨_, hk, decide_eq_true rfl⟩

/-- A column is assigned if it is supplied and not excluded, whatever its value is. -/
theorem Update.column_of_assignment {objects : Objects} {source : Value} {keys : List Value}
    {c : Column} {o : Option (Column × Value)} (h : assignment objects source keys c = .ok o) :
    o.map (·.1) =
      if c.excludeFromUpdate.truthy then none
      else if keys.any fun k => k.text? = some c.propertyKey then some c else none := by
  obtain ⟨excluded, he, h⟩ := bind_eq_ok.mp h
  rw [← Value.truth_eq_ok (mapError_eq_ok.mp he)]
  split at h
  · cases h
    exact (if_pos ‹_›).symm
  · rw [if_neg ‹_›]
    split at h
    · obtain ⟨v, -, h⟩ := bind_eq_ok.mp h
      cases h
      exact (if_pos ‹_›).symm
    · cases h
      exact (if_neg ‹_›).symm

theorem Update.same_assigned {objects objects' : Objects} {t : Table} {source source' : Value}
    {keys keys' : List Value} (hkeys : ∀ name, .text name ∈ keys ↔ .text name ∈ keys')
    {l l' : List (Column × Value)} (h : assignments objects t source keys = .ok l)
    (h' : assignments objects' t source' keys' = .ok l') : l.map (·.1) = l'.map (·.1) := by
  obtain ⟨os, hos, h⟩ := bind_eq_ok.mp h
  obtain ⟨os', hos', h'⟩ := bind_eq_ok.mp h'
  cases h
  cases h'
  have hall : os.map (Option.map (·.1)) = os'.map (Option.map (·.1)) := by
    refine mapM_agree (fun c _ o o' ho ho' => ?_) hos hos'
    have hany : (keys.any fun k => k.text? = some c.propertyKey) =
        keys'.any fun k => k.text? = some c.propertyKey := by
      rw [Bool.eq_iff_iff, any_text_iff, any_text_iff]
      exact hkeys c.propertyKey
    rw [column_of_assignment ho, column_of_assignment ho', hany]
  have hkept := congrArg (List.filterMap id) hall
  rw [List.filterMap_map, List.filterMap_map] at hkept
  rw [List.map_filterMap, List.map_filterMap]
  exact hkept

theorem Update.same_build (hp : ctx.Parallel ctx') (hops : ctx.operators = Operators.builtin)
    {u u' : Update} (h : u.SameButValues ctx ctx' feeds feeds' u')
    (hu : (u.build ctx feeds).result = .ok st) (hu' : (u'.build ctx' feeds').result = .ok st') :
    st.query = st'.query ∧ records ctx.objects (u.build ctx feeds).log =
      records ctx'.objects (u'.build ctx' feeds').log := by
  obtain ⟨hrest, hkeys, hconditions⟩ := h
  obtain ⟨source', conditions', hrest⟩ :
    ∃ v c, u' = { u with source := v, conditions := c } := ⟨_, _, hrest⟩
  subst hrest
  obtain ⟨⟨t, keys, assigned, conditions⟩, hb⟩ := exists_built hu
  obtain ⟨⟨t', keys', assigned', conditions'⟩, hb'⟩ := exists_built hu'
  obtain rfl : t = t' := hp.tables _ _ _ hb.table hb'.table
  obtain ⟨hc, hlog⟩ := Where.same_compile hp hops (Value.sameText_null _ _) rfl hconditions
    hb.conditions hb'.conditions
  have ha := same_assigned (hkeys keys keys' hb.keys hb'.keys) hb.assigned hb'.assigned
  have hcount : (Parts.mk t keys assigned conditions).params.length =
      (Parts.mk t keys' assigned' conditions').params.length := by
    have := congrArg List.length ha
    rw [List.length_map, List.length_map] at this
    simp only [Parts.params, List.length_append, List.length_map, this, hc.count]
  have hset : (assigned.map fun e => e.1.name ++ " = ?") =
      assigned'.map fun e => e.1.name ++ " = ?" := by
    have := congrArg (List.map fun c : Column => c.name ++ " = ?") ha
    rwa [List.map_map, List.map_map] at this
  rw [hb.run] at hu
  rw [hb'.run] at hu'
  cases hu
  cases hu'
  rw [hb.run, hb'.run]
  refine ⟨?_, ?_⟩
  · simp only [Parts.query, hc.withWhere, hset]
  · rw [records_append, records_append, hlog, hcount]
    rfl

theorem Delete.same_build (hp : ctx.Parallel ctx') (hops : ctx.operators = Operators.builtin)
    {d d' : Delete} (h : d.SameButValues ctx ctx' feeds feeds' d')
    (hd : (d.build ctx feeds).result = .ok st) (hd' : (d'.build ctx' feeds').result = .ok st') :
    st.query = st'.query ∧ records ctx.objects (d.build ctx feeds).log =
      records ctx'.objects (d'.build ctx' feeds').log := by
  obtain ⟨hrest, hconditions⟩ := h
  obtain ⟨conditions', hrest⟩ : ∃ c, d' = { d with conditions := c } := ⟨_, hrest⟩
  subst hrest
  obtain ⟨⟨t, conditions⟩, hb⟩ := exists_built hd
  obtain ⟨⟨t', conditions'⟩, hb'⟩ := exists_built hd'
  obtain rfl : t = t' := hp.tables _ _ _ hb.table hb'.table
  obtain ⟨hc, hlog⟩ := Where.same_compile hp hops (Value.sameText_null _ _) rfl hconditions
    hb.conditions hb'.conditions
  rw [hb.run] at hd
  rw [hb'.run] at hd'
  cases hd
  cases hd'
  rw [hb.run, hb'.run]
  refine ⟨?_, ?_⟩
  · simp only [hc.withWhere]
  · rw [records_append, records_append, hlog, hc.count]
    rfl

/-- Values reach neither the text of a statement nor the records of its making: whatever is bound,
two builders with the same outlines, rows and supplied properties have the same of both. -/
theorem Builder.values_stay_out (hp : ctx.Parallel ctx') (hops : ctx.operators = Operators.builtin)
    {b b' : Builder} (h : SameButValues ctx ctx' feeds feeds' b b')
    (hb : (b.build ctx feeds).result = .ok st) (hb' : (b'.build ctx' feeds').result = .ok st') :
    st.query = st'.query ∧ records ctx.objects (b.build ctx feeds).log =
      records ctx'.objects (b'.build ctx' feeds').log := by
  match b, b', h with
  | .select _, .select _, h => exact Select.same_build hp hops h hb hb'
  | .insert _, .insert _, h => exact Insert.same_build hp h hb hb'
  | .update _, .update _, h => exact Update.same_build hp hops h hb hb'
  | .delete _, .delete _, h => exact Delete.same_build hp hops h hb hb'

end

/-- As `petUpdate`, with other values: the pets are drawn from a feed. -/
def petUpdateFed : Builder :=
  .update ⟨.cls (.plain "Pet"), .usual, .tableName, .dict [(.text "name", .int 7)],
    .dict [(.text "id", .operator (.text "$in") (.feed 0))]⟩

theorem Builder.values_stay_out_petUpdate :
    let feeds : Feeds := [[.text "1) OR (1 = 1", .null]]
    SameButValues petContext petContext [] feeds petUpdate petUpdateFed ∧
      ∃ st st', (petUpdate.build petContext []).result = .ok st ∧
        (petUpdateFed.build petContext feeds).result = .ok st' ∧ st.query = st'.query ∧
        records noObjects (petUpdate.build petContext []).log =
          records noObjects (petUpdateFed.build petContext feeds).log := by
  intro feeds
  have hkey : Outline.Same noObjects noObjects ⟨.text "id", [], .member 2⟩
      ⟨.text "id", [], .member 2⟩ := ⟨⟨rfl, rfl, rfl⟩, rfl, rfl⟩
  have h : SameButValues petContext petContext [] feeds petUpdate petUpdateFed := by
    refine ⟨rfl, ?_, ⟨_, _, rfl, rfl, .cons hkey .nil⟩⟩
    rintro _ _ ⟨⟩ ⟨⟩ name
    exact Iff.rfl
  exact ⟨h, _, _, rfl, rfl, Builder.values_stay_out (.refl petContext) rfl h rfl rfl⟩

end RecordSql
