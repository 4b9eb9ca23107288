import RecordSql.Proofs.Registry.History

/-! Registrations of different entities commute.

Of the registrations in a run, only those of its own entity count for an entry. So two runs lead to
the same entries if they make the same registrations of each entity in the same order, however they
interleave them. -/

namespace RecordSql

namespace Entry

/-- An entry after registrations of its entity. -/
def afterAll (e : Entry) (l : List Registration) : Entry := l.foldl Entry.after e

/-- The events of registrations of the entity of an entry. -/
def history (e : Entry) : List Registration → List Event
  | [] => []
  | x :: l =>
    let v := x.verdict e
    ⟨.register x, v.result, v.log⟩ :: history (e.after x) l

theorem afterAll_concat (e : Entry) (l : List Registration) (x : Registration) :
    e.afterAll (l ++ [x]) = (e.afterAll l).after x :=
  List.foldl_concat _ _ _ _

theorem history_concat (e : Entry) (l : List Registration) (x : Registration) :
    e.history (l ++ [x]) = e.history l ++
      [⟨.register x, (x.verdict (e.afterAll l)).result, (x.verdict (e.afterAll l)).log⟩] := by
  induction l generalizing e with
  | nil => rfl
  | cons y l ih =>
    rw [List.cons_append, history, ih (e.after y), history]
    rfl

end Entry

/-- The key of the entity that a call registers something for. -/
def Call.key? : Call → Option Key
  | register x => x.key?
  | clear => none

/-- The events of the calls for the entity of a key. -/
def eventsOf (k : Key) (events : List Event) : List Event := events.filter (·.call.key? = some k)

theorem eventsOf_concat (k : Key) (events : List Event) (e : Event) :
    eventsOf k (events ++ [e]) =
      if e.call.key? = some k then eventsOf k events ++ [e] else eventsOf k events := by
  rw [eventsOf, List.filter_append]
  by_cases h : e.call.key? = some k <;> simp [eventsOf, h]

namespace Registry

variable {calls : List Call} {objects : Objects}

/-- The calls before a further registration. -/
theorem registering_concat (calls : List Call) (l : List Registration) (x : Registration) :
    calls ++ (l ++ [x]).map .register = (calls ++ l.map .register) ++ [.register x] := by
  simp

theorem history_concat (r : Registry) (calls : List Call) (c : Call) :
    r.history (calls ++ [c]) = r.history calls ++
      [⟨c, (c.run (r.after calls)).result, (c.run (r.after calls)).log⟩] :=
  history_append r calls [c]

/-- Registrations bring an entry forward as far as they are for its entity. -/
theorem entry_registering {l : List Registration} (hl : Lasting (calls ++ l.map .register))
    (ho : SeenBy objects (calls ++ l.map .register)) (k : Key) :
    (Registry.after ∅ (calls ++ l.map .register)).entry objects k =
      ((Registry.after ∅ calls).entry objects k).afterAll (ofKey k l) := by
  induction l using List.reverseRecOn with
  | nil =>
    rw [List.map_nil, List.append_nil]
    rfl
  | append_singleton l x ih =>
    rw [registering_concat] at hl ho ⊢
    rw [entry_step hl.steady_concat ho.sees_concat, ih hl.of_append ho.of_append, ofKey_concat]
    split
    · rw [Entry.afterAll_concat]
    · rfl

/-- The events of an entity are what the registrations for it make of its entry. -/
theorem eventsOf_history {l : List Registration} (hl : Lasting (calls ++ l.map .register))
    (ho : SeenBy objects (calls ++ l.map .register)) (k : Key) :
    eventsOf k ((Registry.after ∅ calls).history (l.map .register)) =
      ((Registry.after ∅ calls).entry objects k).history (ofKey k l) := by
  induction l using List.reverseRecOn with
  | nil => rfl
  | append_singleton l x ih =>
    rw [registering_concat] at hl ho
    rw [List.map_append, List.map_singleton, history_concat, eventsOf_concat, ← after_append,
      ih hl.of_append ho.of_append, ofKey_concat, Call.key?, Call.run]
    split
    · next hk =>
      obtain ⟨hresult, hlog⟩ := run_seen hl.steady_concat ho.of_append.sees hk
      rw [Entry.history_concat, ← entry_registering hl.of_append ho.of_append, hresult, hlog]
    · rfl

theorem eventsOf_of_ofKey_eq_nil (r : Registry) {l : List Registration} {k : Key}
    (h : ofKey k l = []) : eventsOf k (r.history (l.map .register)) = [] := by
  induction l generalizing r with
  | nil => rfl
  | cons x l ih =>
    rw [ofKey, List.filter_eq_nil_iff] at h
    have hx : ¬x.key? = some k := fun hk => h x List.mem_cons_self (decide_eq_true hk)
    have hl : ofKey k l = [] :=
      List.filter_eq_nil_iff.mpr fun y hy => h y (List.mem_cons_of_mem _ hy)
    rw [List.map_cons, history, eventsOf, List.filter_cons]
    exact (if_neg fun hd => hx (of_decide_eq_true hd)).trans (ih _ hl)

/-- Whatever order the entities are registered in, the calls for each of them end in the same
way. -/
theorem eventsOf_congr {before : List Call} {l l' : List Registration}
    (hl : Lasting (before ++ l.map .register)) (hl' : Lasting (before ++ l'.map .register))
    {k : Key} (h : ofKey k l = ofKey k l') :
    eventsOf k ((Registry.after ∅ before).history (l.map .register)) =
      eventsOf k ((Registry.after ∅ before).history (l'.map .register)) := by
  cases hk : ofKey k l with
  | nil => rw [eventsOf_of_ofKey_eq_nil _ hk, eventsOf_of_ofKey_eq_nil _ (h.symm.trans hk)]
  | cons x _ =>
    -- the calls are seen by the first of them
    have hmem {l : List Registration} (hx : x ∈ ofKey k l) :
        x ∈ registrations (before ++ l.map .register) := by
      rw [registrations_append]
      exact List.mem_append_right _ (List.mem_filterMap.mpr
        ⟨.register x, List.mem_map_of_mem (List.mem_filter.mp hx).1, rfl⟩)
    have ho := hl x (hmem (hk ▸ List.mem_cons_self))
    have ho' := hl' x (hmem (h ▸ hk ▸ List.mem_cons_self))
    rw [eventsOf_history hl ho, eventsOf_history hl' ho', h]

/-- A call for an entity that is no key ends in the same fault whenever it is made. -/
theorem event_of_unhashable (r : Registry) (calls : List Call) {e : Event}
    (he : e ∈ r.history calls) {x : Registration} (hx : e.call = .register x) {f : Fault}
    (hf : x.entity.key x.objects = .error f) : e = ⟨.register x, .error (.fault f), []⟩ := by
  induction calls generalizing r with
  | nil => cases he
  | cons c calls ih =>
    rcases List.mem_cons.mp he with rfl | he
    · obtain rfl : c = .register x := hx
      rw [Call.run, Registration.run_of_unhashable hf]
    · exact ih _ he

/-! ### Sizes -/

/-- The keys of the entities with tables. -/
def keysOf (objects : Objects) (m : Holdings Table) : List Key :=
  m.filterMap fun h => (h.entity.key objects).toOption

/-- Every table is found by the key of its entity. -/
theorem exists_isFor {m : Holdings Table} {l : List Registration} (hm : m.PlacedBy l)
    (ho : Sees objects l) {h : Holding Table} (hh : h ∈ m) :
    ∃ k, (h.entity.key objects).toOption = some k ∧ h.isFor objects k := by
  obtain ⟨x, hx, he, k, hk, hp⟩ := hm h hh
  have hkey : (h.entity.key objects).toOption = some k := by
    rw [← he, ho x hx, Registration.key?_eq_some, he, hk]
  exact ⟨k, hkey, by simp [Holding.isFor, hp, hkey]⟩

theorem mem_keysOf {m : Holdings Table} {l : List Registration} (hm : m.PlacedBy l)
    (ho : Sees objects l) {k : Key} :
    k ∈ keysOf objects m ↔ (Holdings.get? objects m k).isSome := by
  rw [keysOf, List.mem_filterMap, Holdings.get?, Option.isSome_map, List.find?_isSome]
  constructor
  · rintro ⟨h, hh, hk⟩
    obtain ⟨j, hj, hfor⟩ := exists_isFor hm ho hh
    obtain rfl : j = k := Option.some.inj (hj.symm.trans hk)
    exact ⟨h, hh, hfor⟩
  · rintro ⟨h, hh, hfor⟩
    simp only [Holding.isFor, Bool.and_eq_true, decide_eq_true_eq] at hfor
    exact ⟨h, hh, hfor.2⟩

theorem length_keysOf {m : Holdings Table} {l : List Registration} (hm : m.PlacedBy l)
    (ho : Sees objects l) : (keysOf objects m).length = m.length := by
  induction m with
  | nil => rfl
  | cons h m ih =>
    obtain ⟨k, hk, -⟩ := exists_isFor hm ho List.mem_cons_self
    rw [keysOf, List.filterMap_cons, hk]
    exact congrArg (· + 1) (ih fun g hg => hm g (List.mem_cons_of_mem _ hg))

/-- No entity has two tables. -/
theorem nodup_keysOf (hs : Steady (standing calls)) (ho : Sees objects (standing calls)) :
    (keysOf objects (Registry.after ∅ calls).tables).Nodup := by
  induction calls using List.reverseRecOn with
  | nil => exact List.nodup_nil
  | append_singleton calls c ih =>
    rw [after_concat]
    cases c with
    | clear => exact List.nodup_nil
    | register x =>
      rw [standing_concat_register] at hs ho
      replace ih := ih hs.of_append ho.of_append
      rw [Call.run]
      rcases x.state_cases (Registry.after ∅ calls) with h | ⟨k, a, hk, hn, -, h⟩
      · rw [h]
        exact ih
      · rw [h]
        cases a with
        | column c => exact ih
        | relation l => exact ih
        | table t =>
          have hkey : (x.entity.key objects).toOption = some k := by
            rw [ho x (by simp), Registration.key?_eq_some, hk]
          rw [add, Holdings.put_of_get?_eq_none hn, keysOf, List.filterMap_append, ← keysOf,
            List.filterMap_cons, hkey, List.filterMap_nil, List.nodup_append]
          refine ⟨ih, List.pairwise_singleton _ _, ?_⟩
          intro j hj i hi
          obtain rfl := List.mem_singleton.mp hi
          rintro rfl
          have hp := (placedBy_after calls).tables
          rw [mem_keysOf hp ho.of_append, hp.get?_congr ho.of_append hs.sees_last.of_append] at hj
          rw [show Holdings.get? x.objects _ j = none from hn] at hj
          cases hj

/-- Registries with the same entries have as many tables. -/
theorem size_eq {calls calls' : List Call} (hl : Lasting calls) (hl' : Lasting calls')
    (ho : SeenBy objects calls) (ho' : SeenBy objects calls')
    (h : ∀ k, (Registry.after ∅ calls).entry objects k =
      (Registry.after ∅ calls').entry objects k) :
    (Registry.after ∅ calls).size = (Registry.after ∅ calls').size := by
  have hp := (placedBy_after calls).tables
  have hp' := (placedBy_after calls').tables
  rw [size, size, ← length_keysOf hp ho.sees, ← length_keysOf hp' ho'.sees]
  refine ((List.perm_ext_iff_of_nodup (nodup_keysOf hl.steady ho.sees)
    (nodup_keysOf hl'.steady ho'.sees)).mpr fun k => ?_).length_eq
  rw [mem_keysOf hp ho.sees, mem_keysOf hp' ho'.sees]
  exact iff_of_eq (congrArg (fun e : Entry => e.table?.isSome = true) (h k))

/-! ### Runs alike -/

/-- Runs that lead to the same entries, in every view of both. -/
def Alike (calls calls' : List Call) : Prop :=
  ∀ objects, SeenBy objects calls → SeenBy objects calls' → ∀ k,
    (Registry.after ∅ calls).entry objects k = (Registry.after ∅ calls').entry objects k

/-- Whatever order the entities are registered in, their entries are the same. -/
theorem alike_of_ofKey {before : List Call} {l l' : List Registration}
    (hl : Lasting (before ++ l.map .register)) (hl' : Lasting (before ++ l'.map .register))
    (h : ∀ k, ofKey k l = ofKey k l') :
    Alike (before ++ l.map .register) (before ++ l'.map .register) := by
  intro objects ho ho' k
  rw [entry_registering hl ho, entry_registering hl' ho', h k]

namespace Alike

variable {calls calls' : List Call}

/-- A further call ends in the same way after runs that are alike. -/
theorem run (h : Alike calls calls') {c : Call} (hl : Lasting (calls ++ [c]))
    (hl' : Lasting (calls' ++ [c])) :
    (c.run (Registry.after ∅ calls)).result = (c.run (Registry.after ∅ calls')).result ∧
      (c.run (Registry.after ∅ calls)).log = (c.run (Registry.after ∅ calls')).log := by
  cases c with
  | clear => exact ⟨rfl, rfl⟩
  | register x =>
    rw [Call.run]
    cases hkey : x.key? with
    | none =>
      obtain ⟨f, hk⟩ := Registration.key?_eq_none.mp hkey
      rw [Registration.run_of_unhashable hk, Registration.run_of_unhashable hk]
      exact ⟨rfl, rfl⟩
    | some k =>
      have ho := hl x (mem_registrations_concat calls x)
      have ho' := hl' x (mem_registrations_concat calls' x)
      obtain ⟨hresult, hlog⟩ := run_seen hl.steady_concat ho.of_append.sees hkey
      obtain ⟨hresult', hlog'⟩ := run_seen hl'.steady_concat ho'.of_append.sees hkey
      rw [hresult, hlog, hresult', hlog', h x.objects ho.of_append ho'.of_append k]
      exact ⟨rfl, rfl⟩

theorem concat (h : Alike calls calls') {c : Call} (hl : Lasting (calls ++ [c]))
    (hl' : Lasting (calls' ++ [c])) : Alike (calls ++ [c]) (calls' ++ [c]) := by
  intro objects ho ho' k
  cases c with
  | clear => rw [after_concat, after_concat]; rfl
  | register x =>
    rw [entry_step hl.steady_concat ho.sees_concat, entry_step hl'.steady_concat ho'.sees_concat,
      h objects ho.of_append ho'.of_append k]

/-- Further calls have the same events after runs that are alike, and lead to runs alike. -/
theorem further (h : Alike calls calls') {more : List Call} (hl : Lasting (calls ++ more))
    (hl' : Lasting (calls' ++ more)) :
    (Registry.after ∅ calls).history more = (Registry.after ∅ calls').history more ∧
      Alike (calls ++ more) (calls' ++ more) := by
  induction more using List.reverseRecOn with
  | nil =>
    rw [List.append_nil, List.append_nil]
    exact ⟨rfl, h⟩
  | append_singleton more c ih =>
    rw [← List.append_assoc] at hl hl'
    obtain ⟨hevents, halike⟩ := ih hl.of_append hl'.of_append
    obtain ⟨hresult, hlog⟩ := halike.run hl hl'
    rw [after_append, after_append] at hresult hlog
    rw [history_concat, history_concat, hevents, hresult, hlog, ← List.append_assoc,
      ← List.append_assoc]
    exact ⟨rfl, halike.concat hl hl'⟩

end Alike

end Registry

end RecordSql
