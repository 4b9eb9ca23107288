import RecordSql.Objects

/-! What is held for entities. An entity is found at the place that its key had when something was
first held for it: if its attributes make another key of it since, it is found no more, until they
make the old one again. -/

namespace RecordSql

/-- What is held for an entity, and the place where it was put. -/
structure Holding (α : Type) where
  place : List Atom
  entity : Value
  held : α

/-- What is held for several entities, in the order of the first time. -/
abbrev Holdings (α : Type) := List (Holding α)

/-- Whether something is held for the entity of a key. -/
def Holding.isFor {α : Type} (objects : Objects) (k : Key) (h : Holding α) : Bool :=
  h.place = k.place && decide ((h.entity.key objects).toOption = some k)

namespace Holdings

variable {α : Type} (objects : Objects)

def get? (m : Holdings α) (k : Key) : Option α := (m.find? (·.isFor objects k)).map (·.held)

def contains (m : Holdings α) (k : Key) : Bool := (get? objects m k).isSome

/-- Replaces in place what is held for an entity, or adds it at the end. -/
def put : Holdings α → Key → Value → α → Holdings α
  | [], k, entity, a => [⟨k.place, entity, a⟩]
  | h :: m, k, entity, a =>
    if h.isFor objects k then { h with held := a } :: m else h :: put m k entity a

/-- Leaves out what is held for the entity of a key. -/
def erase (m : Holdings α) (k : Key) : Holdings α := m.filter fun h => !h.isFor objects k

def values (m : Holdings α) : List α := m.map (·.held)

variable {objects}

theorem isFor_unique {h : Holding α} {j k : Key} (hj : h.isFor objects j = true)
    (hk : h.isFor objects k = true) : j = k := by
  simp only [Holding.isFor, Bool.and_eq_true, decide_eq_true_eq] at hj hk
  exact Option.some.inj (hj.2.symm.trans hk.2)

theorem get?_cons (h : Holding α) (m : Holdings α) (k : Key) :
    get? objects (h :: m) k = if h.isFor objects k then some h.held else get? objects m k := by
  by_cases hk : h.isFor objects k <;> simp [get?, hk]

theorem get?_put {entity : Value} {k : Key} (he : entity.key objects = .ok k) (m : Holdings α)
    (a : α) (j : Key) :
    get? objects (put objects m k entity a) j = if k = j then some a else get? objects m j := by
  induction m with
  | nil =>
    have : (Except.ok k : Except Fault Key).toOption = some k := rfl
    by_cases hj : k = j <;> simp_all [put, Holding.isFor, get?]
  | cons h m ih =>
    by_cases hk : h.isFor objects k
    · have hh (b : α) :
          ({ h with held := b } : Holding α).isFor objects j = h.isFor objects j := rfl
      by_cases hj : k = j
      · subst hj
        simp [put, hk, get?_cons, hh]
      · have : h.isFor objects j = false :=
          Bool.eq_false_iff.2 fun h' => hj (isFor_unique hk h')
        simp [put, hk, get?_cons, hh, this, hj]
    · by_cases hj : h.isFor objects j
      · have : k ≠ j := fun e => hk (e ▸ hj)
        simp [put, hk, get?_cons, hj, this]
      · simp [put, hk, get?_cons, hj, ih]

theorem get?_erase (m : Holdings α) (k j : Key) :
    get? objects (erase objects m k) j = if k = j then none else get? objects m j := by
  induction m with
  | nil => simp [erase, get?]
  | cons h m ih =>
    rw [erase] at ih
    by_cases hk : h.isFor objects k
    · by_cases hj : k = j
      · simp_all [erase]
      · have : h.isFor objects j = false :=
          Bool.eq_false_iff.2 fun h' => hj (isFor_unique hk h')
        simp [erase, hk, get?_cons, this, ih]
    · by_cases hj : h.isFor objects j
      · have : k ≠ j := fun e => hk (e ▸ hj)
        simp [erase, hk, get?_cons, hj, this]
      · simp [erase, hk, get?_cons, hj, ih]

theorem get?_eq_none {m : Holdings α} {k : Key} :
    get? objects m k = none ↔ ∀ h ∈ m, h.isFor objects k = false := by
  simp [get?]

/-- What is put for an entity stands in the place of what was held for it, or at the end. -/
theorem mem_put {m : Holdings α} {k : Key} {entity : Value} {a : α} {h : Holding α}
    (hm : h ∈ put objects m k entity a) :
    h ∈ m ∨ (∃ g ∈ m, h = { g with held := a }) ∨
      get? objects m k = none ∧ h = ⟨k.place, entity, a⟩ := by
  induction m with
  | nil => exact .inr (.inr ⟨rfl, List.mem_singleton.mp hm⟩)
  | cons g m ih =>
    rw [put] at hm
    split at hm
    · rcases List.mem_cons.mp hm with rfl | hm
      · exact .inr (.inl ⟨g, List.mem_cons_self, rfl⟩)
      · exact .inl (List.mem_cons_of_mem _ hm)
    · rename_i hg
      rcases List.mem_cons.mp hm with rfl | hm
      · exact .inl List.mem_cons_self
      · rcases ih hm with hm | ⟨g', hg', rfl⟩ | ⟨hn, rfl⟩
        · exact .inl (List.mem_cons_of_mem _ hm)
        · exact .inr (.inl ⟨g', List.mem_cons_of_mem _ hg', rfl⟩)
        · exact .inr (.inr ⟨by rw [get?_cons, if_neg hg, hn], rfl⟩)

theorem put_of_get?_eq_none {m : Holdings α} {k : Key} (h : get? objects m k = none)
    (entity : Value) (a : α) : put objects m k entity a = m ++ [⟨k.place, entity, a⟩] := by
  induction m with
  | nil => rfl
  | cons g m ih =>
    rw [get?_cons] at h
    split at h
    · simp at h
    · rename_i hg
      rw [put, if_neg hg, ih h, List.cons_append]

end Holdings

end RecordSql
