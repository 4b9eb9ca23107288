import RecordSql.Proofs.Registry.Entry
import RecordSql.World.Display

/-! Classes as entities. A class is the same key in every view, and no object passes for one; so
what is held for a class does not depend on the view in which it is looked up. -/

namespace RecordSql

/-- The key of a class. -/
def ClassRef.key (c : ClassRef) : Key := .atom (.cls c)

/-- Views in which no object is the key of a class. -/
def Objects.Distinct (objects : Objects) : Prop :=
  ∀ i k, objects.key i = .ok k → ∀ c, k.place.head? ≠ some (.cls c)

theorem Value.key_eq_class {objects : Objects} (ho : objects.Distinct) {v : Value} {c : ClassRef} :
    v.key objects = .ok c.key ↔ v = cls c := by
  constructor
  · intro h
    have hplace {k : Key} (hk : v.key objects = .ok k) : k.place.head? = some (.cls c) := by
      obtain rfl := Except.ok.inj (hk.symm.trans h)
      rfl
    cases v with
    | object i d =>
      rw [key, keyWith] at h
      exact absurd rfl (ho i _ h c)
    | cls d =>
      simpa [key, keyWith, ClassRef.key, Key.atom] using h
    | float x =>
      have := hplace (k := .atom (numberAtom x)) (by rw [key, keyWith])
      unfold numberAtom at this
      split at this <;> simp [Key.atom] at this
    | tuple l n =>
      rw [key, keyWith] at h
      obtain ⟨k, -, h⟩ := map_eq_ok.mp h
      cases h
    | fixedSet l n =>
      rw [key, keyWith] at h
      obtain ⟨k, -, h⟩ := bind_eq_ok.mp h
      cases h
    | literal v n =>
      rw [key, keyWith] at h
      obtain ⟨k, -, h⟩ := map_eq_ok.mp h
      cases h
    | operator t v n =>
      rw [key, keyWith] at h
      obtain ⟨k, -, h⟩ := bind_eq_ok.mp h
      obtain ⟨l, -, h⟩ := bind_eq_ok.mp h
      cases h
    | _ => simp [key, keyWith, ClassRef.key, Key.atom] at h
  · rintro rfl
    simp [key, keyWith, ClassRef.key]

namespace Holdings

variable {α : Type} {objects objects' : Objects}

theorem isFor_class (ho : objects.Distinct) (ho' : objects'.Distinct) (h : Holding α)
    (c : ClassRef) : h.isFor objects c.key = h.isFor objects' c.key := by
  have hclass {objects : Objects} (ho : objects.Distinct) :
      (h.entity.key objects).toOption = some c.key ↔ h.entity = .cls c := by
    rw [← Value.key_eq_class ho]
    cases h.entity.key objects <;> simp [Except.toOption]
  rw [Holding.isFor, Holding.isFor,
    decide_eq_decide.mpr ((hclass ho).trans (hclass ho').symm)]

/-- What is held for a class is the same in every view. -/
theorem get?_class (ho : objects.Distinct) (ho' : objects'.Distinct) (m : Holdings α)
    (c : ClassRef) : get? objects m c.key = get? objects' m c.key := by
  rw [get?, get?, funext fun h => isFor_class ho ho' h c]

end Holdings

theorem Registry.entry_class {objects objects' : Objects} (ho : objects.Distinct)
    (ho' : objects'.Distinct) (r : Registry) (c : ClassRef) :
    r.entry objects c.key = r.entry objects' c.key := by
  simp only [entry, tableAt?, pendingColumnsOf, pendingRelationsOf, Holdings.get?_class ho ho']

/-- The table of a class is looked up by its key. -/
theorem Registry.table_class_eq_ok {r : Registry} {objects : Objects} {c : ClassRef} {t : Table} :
    r.table objects (.cls c) = .ok t ↔ r.tableAt? objects c.key = some t := by
  have hk : (Value.cls c).key objects = .ok c.key := by
    simp [Value.key, Value.keyWith, ClassRef.key]
  rw [Registry.table_eq, hk]
  show (Option.elim (r.tableAt? objects c.key) _ _) = _ ↔ _
  cases r.tableAt? objects c.key <;> simp

/-- So it is the same in every view. -/
theorem Registry.table_class {objects objects' : Objects} (ho : objects.Distinct)
    (ho' : objects'.Distinct) {r : Registry} {c : ClassRef} {t : Table}
    (ht : r.table objects (.cls c) = .ok t) : r.table objects' (.cls c) = .ok t := by
  have hat : r.tableAt? objects c.key = some t := table_class_eq_ok.mp ht
  exact table_class_eq_ok.mpr ((Holdings.get?_class ho' ho _ c).trans hat)

namespace World

theorem head_foldl {f : Key → Key → Key} (hf : ∀ k l a, k.place.head? = some a →
    (f k l).place.head? = some a) (l : List Key) {k : Key} {a : Atom}
    (hk : k.place.head? = some a) : (l.foldl f k).place.head? = some a := by
  induction l generalizing k with
  | nil => exact hk
  | cons j l ih => exact ih (hf k j a hk)

theorem head?_joined {k : Key} {a : Atom} (hk : k.place.head? = some a) (l : Key) :
    (k.joined l).place.head? = some a := by
  rw [Key.joined, List.head?_append, hk, Option.some_or]

/-- The key of an object begins with the object, or with the class that it is a record of. -/
theorem head_keyWithin (w : World) (depth i : Nat) {k : Key} (h : w.keyWithin depth i = .ok k) :
    k.place.head? = some (.object i) ∨ ∃ c n, k.place.head? = some (.record c n) := by
  cases depth with
  | zero => cases h
  | succ depth =>
    rw [keyWithin] at h
    split at h
    · cases h
      exact .inl rfl
    · split at h
      · cases h
        exact .inl rfl
      · obtain ⟨values, -, h⟩ := bind_eq_ok.mp h
        obtain ⟨l, -, h⟩ := bind_eq_ok.mp h
        cases h
        exact .inr ⟨_, _, rfl⟩
      · obtain ⟨fields, -, h⟩ := bind_eq_ok.mp h
        obtain ⟨beyond, -, h⟩ := bind_eq_ok.mp h
        cases h
        exact .inr ⟨_, _, head_foldl (f := Key.toldBy) (fun _ _ _ hk => hk) _
          (head_foldl (f := Key.joined) (fun k l a hk => head?_joined hk l) _ rfl)⟩
      · cases h

theorem distinct_view (w : World) : w.view.Distinct := by
  intro i k hk c hc
  rcases w.head_keyWithin _ i hk with h | ⟨_, _, h⟩
  · rw [hc] at h
    cases h
  · rw [hc] at h
    cases h

end World

end RecordSql
