import Mathlib.Data.List.Induction
import Mathlib.Data.List.Nodup
import RecordSql.Assoc

/-! Maps put together from pairs. -/

namespace RecordSql.Assoc

variable {κ α β : Type} [DecidableEq κ]

theorem get?_append (l m : Assoc κ α) (k : κ) :
    get? (l ++ m) k = (get? l k).or (get? m k) := by
  induction l with
  | nil => rfl
  | cons e l ih =>
    rw [List.cons_append, get?, get?, ih]
    split
    · rfl
    · rfl

theorem get?_flatMap (l : List β) (f : β → Assoc κ α) (k : κ) :
    get? (l.flatMap f) k = l.findSome? fun b => get? (f b) k := by
  induction l with
  | nil => rfl
  | cons b l ih =>
    rw [List.flatMap_cons, get?_append, ih, List.findSome?_cons]
    cases get? (f b) k with
    | none => rfl
    | some a => rfl

/-- Of several pairs for one key the last one that is put stands. -/
theorem get?_foldl_put (l m : Assoc κ α) (k : κ) :
    get? (l.foldl (fun found e => put found e.1 e.2) m) k = (get? l.reverse k).or (get? m k) := by
  induction l generalizing m with
  | nil => rfl
  | cons e l ih =>
    have hlast : get? [e] k = if e.1 = k then some e.2 else none := rfl
    rw [List.foldl_cons, ih, get?_put, List.reverse_cons, get?_append, hlast]
    by_cases h : e.1 = k
    · simp [h]
    · simp [h]

/-- Each key keeps the place where it is put first, whatever is put. -/
theorem keys_foldl_put_by (key : β → κ) (value : Assoc κ α → β → α) (l : List β) :
    keys (l.foldl (fun found b => put found (key b) (value found b)) []) =
      (l.map key).eraseDups := by
  induction l using List.reverseRecOn with
  | nil => rfl
  | append_singleton l b ih =>
    rw [List.foldl_concat, keys_put, ih, List.map_append, List.eraseDups_append]
    by_cases h : key b ∈ l.map key
    · have hnone : List.removeAll [key b] (l.map key) = [] := by
        rw [List.removeAll, List.filter_eq_nil_iff]
        simpa using h
      rw [if_pos (List.mem_eraseDups.mpr h), List.map_singleton, hnone]
      exact (List.append_nil _).symm
    · have hsome : List.removeAll [key b] (l.map key) = [key b] := by
        rw [List.removeAll, List.filter_eq_self]
        simpa using h
      rw [if_neg (fun hk => h (List.mem_eraseDups.mp hk)), List.map_singleton, hsome]
      rfl

/-- Each key keeps the place of its first pair. -/
theorem keys_foldl_put (l : Assoc κ α) :
    keys (l.foldl (fun found e => put found e.1 e.2) []) = (keys l).eraseDups :=
  keys_foldl_put_by (·.1) (fun _ e => e.2) l

theorem nodup_keys_put {m : Assoc κ α} (hm : (keys m).Nodup) (k : κ) (a : α) :
    (keys (put m k a)).Nodup := by
  rw [keys_put]
  split
  · exact hm
  · rename_i hk
    have hdisjoint : List.Disjoint (keys m) [k] := by simpa using hk
    exact List.Nodup.append hm (List.nodup_singleton k) hdisjoint

theorem nodup_keys_foldl_put_by (key : β → κ) (value : Assoc κ α → β → α) {m : Assoc κ α}
    (hm : (keys m).Nodup) (l : List β) :
    (keys (l.foldl (fun found b => put found (key b) (value found b)) m)).Nodup := by
  induction l generalizing m with
  | nil => exact hm
  | cons b l ih => exact ih (nodup_keys_put hm (key b) (value m b))

theorem nodup_keys_foldl_put {m : Assoc κ α} (hm : (keys m).Nodup) (l : Assoc κ α) :
    (keys (l.foldl (fun found e => put found e.1 e.2) m)).Nodup :=
  nodup_keys_foldl_put_by (·.1) (fun _ e => e.2) hm l

theorem get?_of_mem {m : Assoc κ α} (hm : (keys m).Nodup) {e : κ × α} (he : e ∈ m) :
    get? m e.1 = some e.2 := by
  induction m with
  | nil => cases he
  | cons d m ih =>
    obtain ⟨hd, hm⟩ : d.1 ∉ keys m ∧ (keys m).Nodup := List.nodup_cons.mp hm
    rw [get?]
    rcases List.mem_cons.mp he with rfl | he
    · exact if_pos rfl
    · have hk : e.1 ∈ keys m := List.mem_map_of_mem he
      have hne : d.1 ≠ e.1 := fun h => hd (h ▸ hk)
      rw [if_neg hne, ih hm he]

theorem isSome_get?_iff {m : Assoc κ α} {k : κ} : (get? m k).isSome ↔ k ∈ keys m := by
  induction m with
  | nil => simp [get?, keys]
  | cons e m ih =>
    rw [get?]
    by_cases h : e.1 = k
    · simp [keys, h]
    · have hk : ¬k = e.1 := fun hk => h hk.symm
      rw [if_neg h, ih]
      simp [keys, hk]

/-- What stands for different keys, in their order. -/
theorem values_eq {m : Assoc κ α} (hm : (keys m).Nodup) :
    values m = (keys m).filterMap (get? m) := by
  have hsome : ∀ e ∈ m, (get? m ∘ (·.1)) e = some e.2 := fun e he => get?_of_mem hm he
  rw [keys, List.filterMap_map, List.filterMap_congr hsome, values, List.filterMap_eq_map']

end RecordSql.Assoc
