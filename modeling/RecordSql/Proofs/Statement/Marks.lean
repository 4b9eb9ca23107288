import RecordSql.Statement

/-! The question marks in a text, each of which a database takes for a placeholder. -/

namespace RecordSql.Text

/-- How many placeholders a text has. -/
def marks (s : String) : Nat := s.toList.count '?'

/-- A text without placeholders. -/
def Plain (s : String) : Prop := '?' ∉ s.toList

instance (s : String) : Decidable (Plain s) := inferInstanceAs (Decidable ('?' ∉ s.toList))

@[simp] theorem marks_append (s t : String) : marks (s ++ t) = marks s + marks t := by
  rw [marks, String.toList_append, List.count_append]
  rfl

theorem Plain.marks {s : String} (h : Plain s) : Text.marks s = 0 := List.count_eq_zero.mpr h

theorem plain_iff {s : String} : Plain s ↔ marks s = 0 := List.count_eq_zero.symm

@[simp] theorem plain_append {s t : String} : Plain (s ++ t) ↔ Plain s ∧ Plain t := by
  rw [plain_iff, marks_append, Nat.add_eq_zero_iff, ← plain_iff, ← plain_iff]

/-- Texts that each have as many placeholders as there are things for them have as many together. -/
theorem marks_intercalate {sep : String} (hs : Plain sep) {α β : Type} {f : α → String}
    {g : α → List β} {l : List α} (h : ∀ a ∈ l, marks (f a) = (g a).length) :
    marks (sep.intercalate (l.map f)) = (l.flatMap g).length := by
  induction l with
  | nil => rw [List.map_nil, String.intercalate_nil]; rfl
  | cons a l ih =>
    have ha : marks (f a) = (g a).length := h a List.mem_cons_self
    cases l with
    | nil => simpa using ha
    | cons b l =>
      have ih := ih fun c hc => h c (List.mem_cons_of_mem a hc)
      rw [List.map_cons, List.map_cons, String.intercalate_cons_cons, marks_append, marks_append,
        hs.marks, ← List.map_cons, ih, ha]
      simp

theorem Plain.intercalate {sep : String} (hs : Plain sep) {l : List String}
    (hl : ∀ s ∈ l, Plain s) : Plain (sep.intercalate l) := by
  have h := marks_intercalate (f := id) (g := fun _ => ([] : List Unit)) hs
    fun s h => (hl s h).marks
  have hnil : (l.flatMap fun _ => ([] : List Unit)) = [] :=
    List.flatMap_eq_nil_iff.mpr fun _ _ => rfl
  rw [List.map_id, hnil] at h
  exact plain_iff.mpr h

theorem Plain.commaSeparated {l : List String} (hl : ∀ s ∈ l, Plain s) :
    Plain (commaSeparated l) :=
  Plain.intercalate (by decide) hl

theorem marks_placeholders (n : Nat) : marks (placeholders n) = n := by
  have hsep : Plain ", " := by decide
  have h := marks_intercalate hsep (f := fun _ => "?") (g := fun _ => [()])
    (l := List.replicate n ()) fun _ _ => rfl
  rw [List.map_replicate] at h
  exact h.trans (by simp)

/-- The digits of a number are no placeholders. -/
theorem plain_repr (n : Nat) : Plain n.repr := by
  intro h
  rw [show n.repr.toList = Nat.toDigits 10 n from String.toList_ofList] at h
  exact absurd (Nat.isDigit_of_mem_toDigits (by decide) (by decide) h) (by decide)

end RecordSql.Text
