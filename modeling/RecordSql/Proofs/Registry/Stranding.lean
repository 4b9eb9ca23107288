import RecordSql.Proofs.Registry.Call

/-! Registrations that fail.

A registration asks for all that may refuse it before it keeps anything, with one exception: the
notice of a new table shows the name of the entity, and an entity that cannot tell one makes the
call fail when its table is final already. -/

namespace RecordSql

/-- Classes have names. -/
theorem Value.entityName_cls (objects : Objects) (c : ClassRef) :
    (cls c).entityName objects = .ok (text c.qualname) := by
  have hs : (cls c).shown objects = .ok c.shown := by simp [shown, shownWith]
  have hq : (cls c).attr objects "__qualname__" = .ok (text c.qualname) := by cases c <;> rfl
  rw [entityName, hs, ok_bind, attrOr, hq]
  rfl

namespace Registration

variable {x : Registration} {r : Registry}

/-- A registration that makes a table final and then finds no name for its entity. -/
structure Strands (x : Registration) (r : Registry) (k : Key) (t : Table) (f : Fault) : Prop where
  key : x.entity.key x.objects = .ok k
  fresh : r.tableAt? x.objects k = none
  checked : x.check (r.entry x.objects k) = .ok (.table t)
  nameless : x.entity.entityName x.objects = .error f

def Stranded (x : Registration) (r : Registry) : Prop := ∃ k t f, x.Strands r k t f

theorem not_stranded_of_named {label : Value} (h : x.entity.entityName x.objects = .ok label) :
    ¬x.Stranded r := by
  rintro ⟨k, t, f, hs⟩
  have := hs.nameless
  rw [h] at this
  cases this

theorem not_stranded_of_class {c : ClassRef} (h : x.entity = .cls c) : ¬x.Stranded r :=
  not_stranded_of_named (h ▸ Value.entityName_cls x.objects c)

namespace Strands

variable {k : Key} {t : Table} {f : Fault}

theorem run (h : x.Strands r k t f) :
    x.run r = ⟨.error (.fault f), r.add x.objects k x.entity (.table t), []⟩ := by
  have hfresh : (r.entry x.objects k).table? = none := h.fresh
  rw [run_eq, h.key]
  simp [verdict, announced, hfresh, h.checked, h.nameless]

/-- The entity has the table from then on. -/
theorem tableAt? (h : x.Strands r k t f) : (x.run r).state.tableAt? x.objects k = some t := by
  rw [h.run]
  have hentry := Registry.entry_add h.key r (.table t) k
  rw [if_pos rfl] at hentry
  exact congrArg Entry.table? hentry

theorem state_ne (h : x.Strands r k t f) : (x.run r).state ≠ r := by
  intro he
  have ht := h.tableAt?
  rw [he, h.fresh] at ht
  cases ht

end Strands

/-- An error comes before anything is added, or from the name that is missing at the end. -/
theorem verdict_of_error {en : Entry} {e : Error} (h : (x.verdict en).result = .error e) :
    x.verdict en = ⟨.error e, none, []⟩ ∨ ∃ t f, en.table? = none ∧
      x.check en = .ok (.table t) ∧ x.entity.entityName x.objects = .error f := by
  unfold verdict announced at *
  cases ht : en.table? with
  | some t =>
    cases hn : x.entity.entityName x.objects with
    | ok label => simp [ht, hn] at h
    | error f =>
      simp only [ht, hn] at h ⊢
      exact .inl (by rw [h])
  | none =>
    simp only [ht] at h ⊢
    rcases hc : x.check en with err | ⟨c | l | t⟩
    · simp only [hc] at h ⊢
      exact .inl (by rw [h])
    · simp [hc] at h
    · simp [hc] at h
    · cases hn : x.entity.entityName x.objects with
      | ok label => simp [hc, hn] at h
      | error f => exact .inr ⟨t, f, trivial, rfl, rfl⟩

/-- A registration that fails otherwise does nothing else. -/
theorem run_of_error {e : Error} (h : (x.run r).result = .error e) (hs : ¬x.Stranded r) :
    x.run r = ⟨.error e, r, []⟩ := by
  cases hk : x.entity.key x.objects with
  | error f =>
    rw [run_of_unhashable hk] at h ⊢
    exact congrArg (Outcome.mk · r []) h
  | ok k =>
    rw [result_run hk] at h
    rcases verdict_of_error h with hv | ⟨t, f, ht, hc, hn⟩
    · rw [run_eq, hk]
      simp [hv]
    · exact absurd ⟨k, t, f, hk, ht, hc, hn⟩ hs

/-- Nothing is reported by a registration that fails. -/
theorem log_of_error {e : Error} (h : (x.run r).result = .error e) : (x.run r).log = [] := by
  by_cases hs : x.Stranded r
  · obtain ⟨k, t, f, hs⟩ := hs
    rw [hs.run]
  · rw [run_of_error h hs]

end Registration

namespace Registry

/-- Calls of which none, since all was last forgotten, ended with a table that was final for an
entity without a name. -/
def Intact (calls : List Call) : Prop :=
  ∀ before x later, calls = before ++ .register x :: later → .clear ∉ later →
    ¬x.Stranded (Registry.after ∅ before)

namespace Intact

variable {calls : List Call} {x : Registration}

theorem of_concat (h : Intact (calls ++ [.register x])) : Intact calls := by
  rintro before y later rfl hl
  refine h before y (later ++ [.register x]) (by simp) fun hmem => ?_
  rcases List.mem_append.mp hmem with hmem | hmem
  · exact hl hmem
  · cases List.mem_singleton.mp hmem

theorem last (h : Intact (calls ++ [.register x])) : ¬x.Stranded (Registry.after ∅ calls) :=
  h calls x [] rfl nofun

end Intact

theorem intact_of_classes {calls : List Call}
    (h : ∀ x ∈ registrations calls, ∃ c, x.entity = .cls c) : Intact calls := by
  rintro before x later rfl -
  obtain ⟨c, hc⟩ := h x (by simp [registrations, Call.registration?])
  exact Registration.not_stranded_of_class hc

end Registry

end RecordSql
