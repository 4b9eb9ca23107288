/-! Finite maps that keep the order in which their keys were first put. -/

namespace RecordSql

/-- Pairs of a key and what it stands for, in the order of their first insertion. -/
abbrev Assoc (κ α : Type) := List (κ × α)

namespace Assoc

variable {κ α : Type} [DecidableEq κ]

/-- What a key stands for. -/
def get? : Assoc κ α → κ → Option α
  | [], _ => none
  | e :: m, k => if e.1 = k then some e.2 else get? m k

def contains (m : Assoc κ α) (k : κ) : Bool := (get? m k).isSome

/-- Replaces in place what a key stands for, or adds the key at the end. -/
def put : Assoc κ α → κ → α → Assoc κ α
  | [], k, a => [(k, a)]
  | e :: m, k, a => if e.1 = k then (e.1, a) :: m else e :: put m k a

/-- Leaves out a key. -/
def erase (m : Assoc κ α) (k : κ) : Assoc κ α := m.filter fun e => e.1 ≠ k

def keys (m : Assoc κ α) : List κ := m.map (·.1)

def values (m : Assoc κ α) : List α := m.map (·.2)

theorem mem_of_get? {m : Assoc κ α} {k : κ} {a : α} (h : get? m k = some a) : (k, a) ∈ m := by
  induction m with
  | nil => cases h
  | cons e m ih =>
    rw [get?] at h
    split at h
    · cases h
      exact ‹e.1 = k› ▸ List.mem_cons_self
    · exact List.mem_cons_of_mem e (ih h)

theorem get?_put (m : Assoc κ α) (k j : κ) (a : α) :
    get? (put m k a) j = if k = j then some a else get? m j := by
  induction m with
  | nil => simp [put, get?]
  | cons e m ih => grind [put, get?]

theorem get?_erase (m : Assoc κ α) (k j : κ) :
    get? (erase m k) j = if k = j then none else get? m j := by
  induction m with
  | nil => simp [erase, get?]
  | cons e m ih => grind [erase, get?]

theorem keys_put (m : Assoc κ α) (k : κ) (a : α) :
    keys (put m k a) = if k ∈ keys m then keys m else keys m ++ [k] := by
  induction m with
  | nil => simp [put, keys]
  | cons e m ih => grind [put, keys]

end Assoc

end RecordSql
