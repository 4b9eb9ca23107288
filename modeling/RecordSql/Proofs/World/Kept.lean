import RecordSql.Proofs.World.Assembly
import RecordSql.Proofs.World.Ordinary

/-! Kept values, in which every collection has a serial number. To keep one again changes nothing.
The attributes of an object are kept values however they are set. -/

namespace RecordSql

open RecordSql.Action

namespace Value

/-! ### Serial numbers -/

mutual

/-- Whether every collection in a value has a serial number. -/
def isKept : Value → Bool
  | list l n | tuple l n | set l n | fixedSet l n => n != 0 && areKept l
  | dict es n => n != 0 && entriesKept es
  | literal v n => n != 0 && v.isKept
  | operator t v n => n != 0 && (t.isKept && v.isKept)
  | _ => true

def areKept : List Value → Bool
  | [] => true
  | v :: l => v.isKept && areKept l

def entriesKept : List (Value × Value) → Bool
  | [] => true
  | (k, v) :: es => k.isKept && (v.isKept && entriesKept es)

end

theorem isKept_of_entriesKept {es : List (Value × Value)} (h : entriesKept es = true) :
    ∀ e ∈ es, e.2.isKept = true := by
  induction es with
  | nil => exact fun _ he => absurd he List.not_mem_nil
  | cons e es ih =>
    rw [entriesKept, Bool.and_eq_true, Bool.and_eq_true] at h
    exact List.forall_mem_cons.mpr ⟨h.2.1, ih h.2.2⟩

theorem issue_of_ne_zero {n : Nat} (hn : n ≠ 0) (next : Nat) : issue next n = (n, next) := if_neg hn

theorem issue_ne_zero {next : Nat} (hnext : next ≠ 0) (n : Nat) :
    (issue next n).1 ≠ 0 ∧ (issue next n).2 ≠ 0 := by
  rw [issue]
  split
  · exact ⟨hnext, next.succ_ne_zero⟩
  · exact ⟨‹_›, hnext⟩

mutual

/-- A value that has its serial numbers is given no other ones. -/
theorem numbered_of_isKept : ∀ (v : Value), v.isKept = true → ∀ next, v.numbered next = (v, next)
  | null, _, _ | bool _, _, _ | int _, _, _ | float _, _, _ | text _, _, _ | bytes _, _, _
  | feed _, _, _ | object _ _, _, _ | cls _, _, _ | member _ _, _, _ => by simp only [numbered]
  | list l n, h, next | tuple l n, h, next | set l n, h, next | fixedSet l n, h, next => by
    rw [isKept, Bool.and_eq_true, bne_iff_ne] at h
    simp only [numbered, issue_of_ne_zero h.1, numberedAll_of_areKept l h.2]
  | dict es n, h, next => by
    rw [isKept, Bool.and_eq_true, bne_iff_ne] at h
    simp only [numbered, issue_of_ne_zero h.1, numberedEntries_of_entriesKept es h.2]
  | literal v n, h, next => by
    rw [isKept, Bool.and_eq_true, bne_iff_ne] at h
    simp only [numbered, issue_of_ne_zero h.1, numbered_of_isKept v h.2]
  | operator t v n, h, next => by
    rw [isKept, Bool.and_eq_true, Bool.and_eq_true, bne_iff_ne] at h
    simp only [numbered, issue_of_ne_zero h.1, numbered_of_isKept t h.2.1,
      numbered_of_isKept v h.2.2]

theorem numberedAll_of_areKept :
    ∀ (l : List Value), areKept l = true → ∀ next, numberedAll next l = (l, next)
  | [], _, _ => by rw [numberedAll]
  | v :: l, h, next => by
    rw [areKept, Bool.and_eq_true] at h
    simp only [numberedAll, numbered_of_isKept v h.1, numberedAll_of_areKept l h.2]

theorem numberedEntries_of_entriesKept :
    ∀ (es : List (Value × Value)), entriesKept es = true →
      ∀ next, numberedEntries next es = (es, next)
  | [], _, _ => by rw [numberedEntries]
  | (k, v) :: es, h, next => by
    rw [entriesKept, Bool.and_eq_true, Bool.and_eq_true] at h
    simp only [numberedEntries, numbered_of_isKept k h.1, numbered_of_isKept v h.2.1,
      numberedEntries_of_entriesKept es h.2.2]

end

mutual

/-- With serial numbers from a proper one on, a value has all it needs, and the next one is proper.
-/
theorem isKept_numbered : ∀ (v : Value) {next : Nat}, next ≠ 0 →
    (v.numbered next).1.isKept = true ∧ (v.numbered next).2 ≠ 0
  | null, _, h | bool _, _, h | int _, _, h | float _, _, h | text _, _, h | bytes _, _, h
  | feed _, _, h | object _ _, _, h | cls _, _, h | member _ _, _, h => by
    simp only [numbered, isKept]
    exact ⟨trivial, h⟩
  | list l n, _, h | tuple l n, _, h | set l n, _, h | fixedSet l n, _, h => by
    obtain ⟨hn, hnext⟩ := issue_ne_zero h n
    obtain ⟨hl, hlast⟩ := areKept_numberedAll l hnext
    simp only [numbered, isKept, hl, Bool.and_true, bne_iff_ne]
    exact ⟨hn, hlast⟩
  | dict es n, _, h => by
    obtain ⟨hn, hnext⟩ := issue_ne_zero h n
    obtain ⟨hes, hlast⟩ := entriesKept_numberedEntries es hnext
    simp only [numbered, isKept, hes, Bool.and_true, bne_iff_ne]
    exact ⟨hn, hlast⟩
  | literal v n, _, h => by
    obtain ⟨hn, hnext⟩ := issue_ne_zero h n
    obtain ⟨hv, hlast⟩ := isKept_numbered v hnext
    simp only [numbered, isKept, hv, Bool.and_true, bne_iff_ne]
    exact ⟨hn, hlast⟩
  | operator t v n, _, h => by
    obtain ⟨hn, hnext⟩ := issue_ne_zero h n
    obtain ⟨ht, hnext⟩ := isKept_numbered t hnext
    obtain ⟨hv, hlast⟩ := isKept_numbered v hnext
    simp only [numbered, isKept, ht, hv, Bool.and_true, bne_iff_ne]
    exact ⟨hn, hlast⟩

theorem areKept_numberedAll : ∀ (l : List Value) {next : Nat}, next ≠ 0 →
    areKept (numberedAll next l).1 = true ∧ (numberedAll next l).2 ≠ 0
  | [], _, h => by
    simp only [numberedAll, areKept]
    exact ⟨trivial, h⟩
  | v :: l, _, h => by
    obtain ⟨hv, hnext⟩ := isKept_numbered v h
    obtain ⟨hl, hlast⟩ := areKept_numberedAll l hnext
    simp only [numberedAll, areKept, hv, hl, Bool.and_true]
    exact ⟨trivial, hlast⟩

theorem entriesKept_numberedEntries : ∀ (es : List (Value × Value)) {next : Nat}, next ≠ 0 →
    entriesKept (numberedEntries next es).1 = true ∧ (numberedEntries next es).2 ≠ 0
  | [], _, h => by
    simp only [numberedEntries, entriesKept]
    exact ⟨trivial, h⟩
  | (k, v) :: es, _, h => by
    obtain ⟨hk, hnext⟩ := isKept_numbered k h
    obtain ⟨hv, hnext⟩ := isKept_numbered v hnext
    obtain ⟨hes, hlast⟩ := entriesKept_numberedEntries es hnext
    simp only [numberedEntries, entriesKept, hk, hv, hes, Bool.and_true]
    exact ⟨trivial, hlast⟩

end

end Value

/-- An object whose variables are kept. -/
def Instance.IsKept (o : Instance) : Prop := ∀ e ∈ o.vars, e.2.isKept = true

theorem Value.mem_put {es : List (Value × Value)} {key : String} {v : Value} {e : Value × Value}
    (h : e ∈ put es key v) : e ∈ es ∨ e.2 = v := by
  induction es with
  | nil => exact .inr (congrArg Prod.snd (List.mem_singleton.mp h))
  | cons e' es ih =>
    rw [put] at h
    split at h
    · rcases List.mem_cons.mp h with rfl | h
      · exact .inr rfl
      · exact .inl (List.mem_cons_of_mem e' h)
    · rcases List.mem_cons.mp h with rfl | h
      · exact .inl List.mem_cons_self
      · exact (ih h).imp_left (List.mem_cons_of_mem e')

theorem Instance.IsKept.withVariable {o : Instance} (h : o.IsKept) (attr : String) {v : Value}
    (hv : v.isKept = true) : (o.withVariable attr v).IsKept := by
  intro e he
  rcases Value.mem_put he with he | rfl
  · exact h e he
  · exact hv

theorem Instance.IsKept.own? {o : Instance} (h : o.IsKept) {attr : String} {v : Value}
    (hv : o.own? attr = some v) : v.isKept = true := by
  obtain ⟨e, he, rfl⟩ := Option.map_eq_some_iff.mp hv
  exact h e (List.mem_of_find?_eq_some he)

namespace World

/-- A change of nothing but the object, which remains one of its class with kept variables, however
the change ends. -/
def Resets (e : Edited) (x : Change) : Prop :=
  ∃ o, (x e).state = { e with object := o } ∧ o.cls = e.object.cls ∧ o.IsKept

theorem resets_current {e : Edited} {g : Instance → Change} (h : Resets e (g e.object)) :
    Resets e (current >>= g) := h

section Resets

variable {w : World} {e : Edited} (he : e.object.IsKept) {v : Value}

include he

theorem resets_refused (f : Fault) : Resets e (Action.faulty f) := ⟨e.object, rfl, rfl, he⟩

theorem resets_leaveTo (held : Value) (rule : String) : Resets e (w.leaveTo held rule) := by
  unfold leaveTo
  split
  · split
    · exact resets_refused he _
    · exact ⟨e.object, rfl, rfl, he⟩
  · exact ⟨e.object, rfl, rfl, he⟩

theorem resets_replaceVariables (hv : v.isKept = true) : Resets e (w.replaceVariables v) := by
  apply resets_current
  split
  · exact resets_refused he _
  · split
    · rename_i vars n
      rw [Value.isKept, Bool.and_eq_true] at hv
      exact ⟨{ e.object with vars }, rfl, rfl, Value.isKept_of_entriesKept hv.2⟩
    · exact resets_refused he _

theorem resets_setPlain (attr : String) (hv : v.isKept = true) :
    Resets e (w.setPlain attr v) := by
  apply resets_current
  dsimp only
  split
  · exact ⟨e.object.withSlot attr v, rfl, rfl, he⟩
  · exact resets_refused he _
  · exact resets_refused he _
  · exact resets_replaceVariables he hv
  · split
    · exact resets_leaveTo he _ _
    · split
      · exact resets_refused he _
      · split
        · exact ⟨e.object.withVariable attr v, rfl, rfl, he.withVariable attr hv⟩
        · exact resets_refused he _

end Resets

/-- An object of an ordinary class whose variables are kept, in a world that has proper serial
numbers. -/
structure Keeping (w : World) (c i : Nat) : Prop where
  ordinary : w.Ordinary c
  serial : w.nextSerial ≠ 0
  object : ∃ o, w.object? i = some o ∧ o.cls = c ∧ o.IsKept

section Keeping

variable {w : World} {c i : Nat}

/-- An attribute is set as a kept value. -/
theorem Keeping.setAttr (h : w.Keeping c i) (k : ClassRef) (attr : String) (v : Value) :
    (setAttr (.object i k) attr v w).state.Keeping c i := by
  obtain ⟨o, hi, ho, hkept⟩ := h.object
  obtain ⟨hv, hserial⟩ := Value.isKept_numbered v h.serial
  have hordinary := h.ordinary.withObjects w.objects (v.numbered w.nextSerial).2
  let e : Edited := ⟨o, { w with nextSerial := (v.numbered w.nextSerial).2 }, some i⟩
  have hset := hordinary.setInstance_run (e := e) ho attr (v.numbered w.nextSerial).1
  have hresets := resets_setPlain (w := e.world) (e := e) hkept attr hv
  rcases hrun : e.world.setPlain attr (v.numbered w.nextSerial).1 e with ⟨r, e', log⟩
  -- a setting that fails leaves an object with kept variables, too
  obtain ⟨o', hstate, ho', hkept'⟩ := hresets
  rw [hrun] at hset hstate
  subst hstate
  rw [setAttr_run hi hset k]
  have hlt : i < w.objects.length := (List.getElem?_eq_some_iff.mp hi).1
  exact
    { ordinary := h.ordinary.withObjects _ _
      serial := hserial
      object := ⟨o', List.getElem?_set_self hlt, ho'.trans ho, hkept'⟩ }

/-- So the variables of the object are kept after any settings, whatever became of each. -/
theorem Keeping.settings (h : w.Keeping c i) (k : ClassRef) (l : List (String × Value)) :
    (l.foldl (fun w e => (World.setAttr (.object i k) e.1 e.2 w).state) w).Keeping c i := by
  induction l generalizing w with
  | nil => exact h
  | cons e l ih => exact ih (h.setAttr k e.1 e.2)

end Keeping

end World

end RecordSql
