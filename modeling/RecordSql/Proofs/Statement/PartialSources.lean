import RecordSql.Proofs.Statement.Assignments

/-! Partial sources: what an UPDATE makes of a source that is no mapping, but supplies the keys and
the values of one. Keys may be told by a set of texts. -/

namespace RecordSql

open RecordSql.Action

/-! ### Entries under texts -/

theorem Assoc.lookup_eq_get? {α : Type} (m : Assoc String α) (key : String) :
    m.lookup key = Assoc.get? m key := by
  induction m with
  | nil => rfl
  | cons e m ih =>
    obtain ⟨key', a⟩ := e
    by_cases h : key' = key
    · simp [Assoc.get?, h]
    · have hne : (key == key') = false := beq_eq_false_iff_ne.mpr (Ne.symm h)
      rw [List.lookup_cons, hne, Assoc.get?, if_neg h]
      exact ih

namespace Value

theorem lookup?_entries_eq (l : List (String × Value)) (key : String) :
    lookup? (entries l) key = l.lookup key := by
  rw [Assoc.lookup_eq_get?]
  induction l with
  | nil => rfl
  | cons e l ih =>
    have hcons : lookup? (entries (e :: l)) key =
        if (text e.1).text? = some key then some e.2 else lookup? (entries l) key :=
      lookup?_cons (text e.1, e.2) (entries l) key
    simp only [hcons, ih, text?, Option.some_inj, Assoc.get?]

theorem isSome_lookup?_entries (l : List (String × Value)) (key : String) :
    (lookup? (entries l) key).isSome = decide (key ∈ l.map (·.1)) := by
  rw [← any_key_eq_isSome, entries, List.any_map, Bool.eq_iff_iff, List.any_eq_true]
  simp [text?]

theorem mem_of_lookup?_entries {l : List (String × Value)} {key : String} {v : Value}
    (h : lookup? (entries l) key = some v) : (key, v) ∈ l := by
  rw [lookup?_entries_eq, Assoc.lookup_eq_get?] at h
  exact Assoc.mem_of_get? h

/-! ### Sets of texts -/

/-- A text among those that are told apart by their keys. -/
def keyedText (s : String) : Key × (Value × Value) := (.atom (.text s), text s, null)

theorem putDistinct_text (objects : Objects) (s : String) (l : List String) :
    putDistinct objects (.atom (.text s)) (text s, null) (l.map keyedText) =
      .ok ((if s ∈ l then l else l ++ [s]).map keyedText) := by
  induction l with
  | nil => rfl
  | cons s' l ih =>
    have hequal : (keyedText s').2.1.checkEquality objects = .ok () := rfl
    by_cases hs : s' = s
    · subst hs
      have hkey : (keyedText s').1 = .atom (.text s') := rfl
      have hmem : s' ∈ s' :: l := List.mem_cons_self
      rw [if_pos hmem, List.map_cons, putDistinct, hequal, if_pos hkey]
      split <;> rfl
    · have hkey : (keyedText s').1 ≠ .atom (.text s) := by
        rintro ⟨⟩
        exact hs rfl
      have hmem : s ∈ s' :: l ↔ s ∈ l := by simp [Ne.symm hs]
      rw [List.map_cons, putDistinct, hequal, if_neg hkey, ih]
      by_cases hl : s ∈ l
      · rw [if_pos hl, if_pos (hmem.mpr hl)]
        split <;> rfl
      · rw [if_neg hl, if_neg (mt hmem.mp hl)]
        split <;> rfl

/-- Of some texts the different ones are told. -/
theorem distinct_texts_eq_ok (objects : Objects) (l : List String) :
    ∃ l' : List String, distinct objects (l.map text) = .ok (l'.map text) ∧
      ∀ s, s ∈ l' ↔ s ∈ l := by
  -- the texts that were put so far are those before and those told
  have hfold (before : List String) : ∃ l' : List String,
      ((l.map text).map fun v => (v, null)).foldlM
        (fun (m : Assoc Key (Value × Value)) (e : Value × Value) => do
          putDistinct objects (← e.1.key objects) e m) (before.map keyedText) =
        .ok (l'.map keyedText) ∧ ∀ s, s ∈ l' ↔ s ∈ before ∨ s ∈ l := by
    induction l generalizing before with
    | nil => exact ⟨before, rfl, by simp⟩
    | cons s l ih =>
      obtain ⟨l', hl', hmem⟩ := ih (if s ∈ before then before else before ++ [s])
      have hkey : (text s).key objects = .ok (.atom (.text s)) := rfl
      refine ⟨l', ?_, fun s' => ?_⟩
      · rw [List.map_cons, List.map_cons, List.foldlM_cons, hkey, ok_bind, putDistinct_text]
        exact hl'
      · rw [hmem]
        split
        · rename_i hs
          constructor
          · exact fun h => h.imp_right (List.mem_cons_of_mem s)
          · rintro (h | h)
            · exact .inl h
            · rcases List.mem_cons.mp h with rfl | h
              · exact .inl hs
              · exact .inr h
        · simp [or_assoc]
  obtain ⟨l', hl', hmem⟩ := hfold []
  refine ⟨l', ?_, fun s => by simpa using hmem s⟩
  have hvalues : (Assoc.values (l'.map keyedText)).map (·.1) = l'.map text := by
    simp [Assoc.values, keyedText]
  rw [distinct, distinctEntries]
  rw [List.map_nil] at hl'
  rw [hl', ← hvalues]
  rfl

/-- What is among the texts of a set. -/
theorem members_texts (objects : Objects) (l : List String) (n : Nat) (feeds : Feeds) :
    ∃ keys, (set (l.map text) n).members objects feeds = ⟨.ok keys, feeds, []⟩ ∧
      ∀ key, (keys.any fun k => k.text? = some key) = decide (key ∈ l) := by
  obtain ⟨l', hl', hmem⟩ := distinct_texts_eq_ok objects l
  have htexts : gathered (l'.map text) = l'.map text := by
    have hnone : (l'.map text).filter isNumber = [] := by simp [isNumber]
    have hall : ((l'.map text).filter fun v => !v.isNumber) = l'.map text := by simp [isNumber]
    rw [gathered, hnone, hall, List.nil_append]
  refine ⟨l'.map text, ?_, fun key => ?_⟩
  · have hitems : (set (l.map text) n).elements objects feeds = ⟨.ok (l.map text), feeds, []⟩ := rfl
    show (elements objects (set (l.map text) n) >>= fun items =>
      liftM (distinct objects items) >>= fun found => pure (gathered found)) feeds = _
    rw [bind_run_ok hitems, liftM_fault_bind_run, hl']
    dsimp only
    rw [htexts]
    rfl
  · rw [List.any_map, Bool.eq_iff_iff, List.any_eq_true, decide_eq_true_eq, ← hmem key]
    simp [text?]

end Value

/-! ### Sources that stand for mappings -/

namespace Update

/-- A source that supplies, of the columns of a table, those that a mapping has, and has the same
values for them. -/
structure StandsFor (objects : Objects) (t : Table) (feeds : Feeds) (source : Value)
    (es : List (Value × Value)) : Prop where
  keys : ∃ keys, supplied objects source feeds = ⟨.ok keys, feeds, []⟩ ∧ ∀ c ∈ t.columns,
    (keys.any fun k => k.text? = some c.propertyKey) = (Value.lookup? es c.propertyKey).isSome
  read : ∀ c ∈ t.columns, ∀ v, Value.lookup? es c.propertyKey = some v →
    Source.read objects source c.propertyKey = .ok v

/-- Such a source is written as the mapping is. -/
theorem StandsFor.build (ctx : Context) (u : Update) {t : Table} {feeds : Feeds} {source : Value}
    {es : List (Value × Value)} (h : StandsFor ctx.objects t feeds source es)
    (ht : ctx.registry.table ctx.objects u.entity = .ok t) (n : Nat) :
    (u.set source).build ctx feeds = (u.set (.dict es n)).build ctx feeds := by
  obtain ⟨keys, hkeys, hsame⟩ := h.keys
  refine build_congr hkeys rfl fun t' ht' c hc => ?_
  obtain rfl := Except.ok.inj (ht.symm.trans ht')
  rw [assignment, assignment, any_key_dict, hsame c hc]
  cases hv : Value.lookup? es c.propertyKey with
  | none => rfl
  | some v =>
    have hcell : Source.cell ctx.objects source c = Source.cell ctx.objects (.dict es n) c := by
      rw [cell_dict hv, Source.cell, h.read c hc v hv]
      rfl
    rw [hcell]

theorem compile_null (ctx : Context) (config : Config) (t : Table) (mode : AliasMode)
    (tableAlias : Value) (feeds : Feeds) :
    Where.compile ctx config t .null mode tableAlias feeds = ⟨.ok .empty, feeds, []⟩ := rfl

/-- What is written for a mapping without conditions. -/
theorem build_unconditional (ctx : Context) (entity : Value) (config : Config) (mode : AliasMode)
    (n : Nat) (feeds : Feeds) {t : Table} {es : List (Value × Value)}
    (ht : ctx.registry.table ctx.objects entity = .ok t)
    (hflags : ∀ c ∈ t.columns, ∃ b, c.excludeFromUpdate.truth ctx.objects = .ok b)
    (hstored : ∀ c ∈ updated es t, ∀ v, Value.lookup? es c.propertyKey = some v →
      ∃ p, Column.stored ctx.objects (some c) v = .ok p) :
    let built := (((of entity config mode).set (.dict es n)).build ctx feeds).result
    (built = .error (.nothingToSet t.name) ↔ updated es t = []) ∧
    (updated es t ≠ [] → ∃ params, List.Forall₂ (Binds ctx.objects es) (updated es t) params ∧
      built = .ok ⟨"UPDATE " ++ t.name ++ " SET " ++
        commaSeparated ((updated es t).map fun c => c.name ++ " = ?"), params⟩) := by
  intro built
  by_cases hnone : updated es t = []
  · have hbuilt : built = .error (.nothingToSet t.name) :=
      congrArg Outcome.result (build_nothing (u := of entity config mode) ht hflags hnone)
    exact ⟨iff_of_true hbuilt hnone, fun h => absurd hnone h⟩
  · obtain ⟨params, hparams, -, hcompiled⟩ :=
      @build_updated es n t ctx (of entity config mode) feeds ht hflags hnone hstored
    have hnull := congrArg Outcome.result (compile_null ctx config t mode .null feeds)
    have hwhere (text : String) : Statement.withWhere text .empty = text := rfl
    have hparams' : params ++ Statement.empty.params = params := List.append_nil params
    have hbuilt := hcompiled .empty hnull
    rw [hwhere, hparams'] at hbuilt
    refine ⟨iff_of_false (fun h => ?_) hnone, fun _ => ⟨params, hparams, hbuilt⟩⟩
    cases h.symm.trans hbuilt

end Update

end RecordSql
