import Mathlib.Data.List.Forall2
import RecordSql.Proofs.Statement.Marks

/-! Templates: texts with slots. A template is written with one placeholder for each of its slots,
in the same order; if its texts have no placeholders of their own, there are no others. -/

namespace RecordSql

/-- A value that is bound for a column, or for none. -/
structure Slot where
  column : Option Column
  value : Value

/-- What is bound for a slot; without a column it is the value itself. -/
def Slot.bound (objects : Objects) (s : Slot) : Except Error Value :=
  Column.stored objects s.column s.value

/-- Values that are bound for slots, one for each. -/
abbrev Slot.BindAll (objects : Objects) (l : List Slot) (params : List Value) : Prop :=
  List.Forall₂ (fun s v => s.bound objects = .ok v) l params

inductive Piece where
  | text (s : String)
  | slot (s : Slot)

abbrev Template := List Piece

namespace Template

def write : Template → String
  | [] => ""
  | .text s :: t => s ++ write t
  | .slot _ :: t => "?" ++ write t

/-- The slots, from left to right. -/
def slots : Template → List Slot
  | [] => []
  | .text _ :: t => slots t
  | .slot s :: t => s :: slots t

/-- A template with no placeholders but those of its slots. -/
def Plain (t : Template) : Prop := ∀ s, .text s ∈ t → Text.Plain s

/-- Templates one after the other, with a text between any two. -/
def separated (sep : String) : List Template → Template
  | [] => []
  | [t] => t
  | t :: u :: l => t ++ .text sep :: separated sep (u :: l)

/-- Slots in brackets. -/
def group (l : List Slot) : Template :=
  .text "(" :: separated ", " (l.map fun s => [.slot s]) ++ [.text ")"]

/-- Appends conditions to a template, if there are any. -/
def withWhere (t conditions : Template) : Template :=
  if conditions.write = "" then t else t ++ .text " WHERE " :: conditions

/-! ### Writing -/

@[simp] theorem write_nil : write [] = "" := rfl

@[simp] theorem write_text (s : String) (t : Template) : write (.text s :: t) = s ++ write t := rfl

@[simp] theorem write_slot (s : Slot) (t : Template) : write (.slot s :: t) = "?" ++ write t := rfl

@[simp] theorem write_append (t u : Template) : write (t ++ u) = write t ++ write u := by
  induction t with
  | nil => simp
  | cons p t ih => cases p <;> simp [ih, String.append_assoc]

theorem write_separated (sep : String) (l : List Template) :
    write (separated sep l) = sep.intercalate (l.map write) := by
  induction l with
  | nil => simp [separated]
  | cons t l ih =>
    cases l with
    | nil => simp [separated]
    | cons u l =>
      rw [separated, write_append, write_text, ih]
      simp [String.intercalate_cons_cons, String.append_assoc]

theorem write_group (l : List Slot) : write (group l) = "(" ++ placeholders l.length ++ ")" := by
  have h : (l.map fun s => [Piece.slot s]).map write = List.replicate l.length "?" := by
    simp [List.eq_replicate_iff]
  rw [group, write_append, write_text, write_separated, h]
  simp [placeholders, commaSeparated]

/-! ### Slots -/

@[simp] theorem slots_nil : slots [] = [] := rfl

@[simp] theorem slots_text (s : String) (t : Template) : slots (.text s :: t) = slots t := rfl

@[simp] theorem slots_slot (s : Slot) (t : Template) : slots (.slot s :: t) = s :: slots t := rfl

@[simp] theorem slots_append (t u : Template) : slots (t ++ u) = slots t ++ slots u := by
  induction t with
  | nil => rfl
  | cons p t ih => cases p <;> simp [ih]

theorem slots_separated (sep : String) (l : List Template) :
    slots (separated sep l) = l.flatMap slots := by
  induction l with
  | nil => rfl
  | cons t l ih =>
    cases l with
    | nil => simp [separated]
    | cons u l =>
      rw [separated, slots_append, slots_text, ih]
      simp

@[simp] theorem slots_group (l : List Slot) : slots (group l) = l := by
  rw [group, slots_append, slots_text, slots_separated]
  simp [List.flatMap_map]

theorem slots_eq_nil {t : Template} (h : t.write = "") : t.slots = [] := by
  induction t with
  | nil => rfl
  | cons p t ih =>
    cases p with
    | text s => exact ih (String.append_eq_empty_iff.mp h).2
    | slot s => simp at h

theorem slots_withWhere (t conditions : Template) :
    slots (withWhere t conditions) = t.slots ++ conditions.slots := by
  rw [withWhere]
  split
  · simp [slots_eq_nil ‹_›]
  · simp

/-! ### Placeholders -/

/-- A template is written with one placeholder for each slot. -/
theorem Plain.marks_write {t : Template} (h : t.Plain) : Text.marks t.write = t.slots.length := by
  induction t with
  | nil => rfl
  | cons p t ih =>
    have ht : Plain t := fun s hs => h s (List.mem_cons_of_mem _ hs)
    cases p with
    | text s => simp [ih ht, (h s List.mem_cons_self).marks]
    | slot s => simp [ih ht, show Text.marks "?" = 1 by decide, Nat.add_comm]

theorem plain_nil : Plain [] := by simp [Plain]

theorem Plain.text {s : String} {t : Template} (hs : Text.Plain s) (ht : t.Plain) :
    Plain (.text s :: t) := by
  intro u hu
  rcases List.mem_cons.mp hu with h | h
  · cases h
    exact hs
  · exact ht u h

theorem Plain.slot (s : Slot) {t : Template} (ht : t.Plain) : Plain (.slot s :: t) := by
  intro u hu
  exact ht u ((List.mem_cons.mp hu).resolve_left Piece.noConfusion)

theorem Plain.append {t u : Template} (ht : t.Plain) (hu : u.Plain) : Plain (t ++ u) := by
  intro s hs
  exact (List.mem_append.mp hs).elim (ht s) (hu s)

theorem Plain.separated {sep : String} (hs : Text.Plain sep) {l : List Template}
    (hl : ∀ t ∈ l, t.Plain) : Plain (separated sep l) := by
  induction l with
  | nil => exact plain_nil
  | cons t l ih =>
    have ht : t.Plain := hl t List.mem_cons_self
    cases l with
    | nil => exact ht
    | cons u l => exact ht.append ((ih fun v hv => hl v (List.mem_cons_of_mem _ hv)).text hs)

theorem plain_group (l : List Slot) : Plain (group l) := by
  have hl : ∀ t ∈ l.map fun s => [Piece.slot s], Plain t := by
    intro t ht
    obtain ⟨s, -, rfl⟩ := List.mem_map.mp ht
    exact plain_nil.slot s
  exact ((Plain.separated (by decide) hl).text (by decide)).append (plain_nil.text (by decide))

theorem Plain.withWhere {t conditions : Template} (ht : t.Plain) (hc : conditions.Plain) :
    Plain (withWhere t conditions) := by
  rw [Template.withWhere]
  split
  · exact ht
  · exact ht.append (hc.text (by decide))

end Template

end RecordSql
