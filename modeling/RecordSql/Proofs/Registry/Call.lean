import Mathlib.Data.List.Induction
import RecordSql.Proofs.Registry.Entry

/-! Runs of calls on a registry: registrations in any order, and the forgetting of all of them.

Every registration has the objects as they were when it was made. Nothing in a run keeps them from
changing in between, so an entity may become another key. Classes cannot. -/

namespace RecordSql

/-- A call that changes a registry. -/
inductive Call where
  | register (x : Registration)
  | clear

namespace Call

def run : Call → Action Registry Unit
  | register x => x.run
  | clear => Registry.clear

def registration? : Call → Option Registration
  | register x => some x
  | clear => none

end Call

namespace Registry

/-- The registry after calls, whatever each of them ends in. -/
def after (r : Registry) (calls : List Call) : Registry :=
  calls.foldl (fun r c => (c.run r).state) r

@[simp] theorem after_nil (r : Registry) : r.after [] = r := rfl

@[simp] theorem after_cons (r : Registry) (c : Call) (calls : List Call) :
    r.after (c :: calls) = Registry.after (c.run r).state calls := rfl

theorem after_append (r : Registry) (calls calls' : List Call) :
    r.after (calls ++ calls') = (r.after calls).after calls' :=
  List.foldl_append

theorem after_concat (r : Registry) (calls : List Call) (c : Call) :
    r.after (calls ++ [c]) = (c.run (r.after calls)).state := by
  rw [after_append, after_cons, after_nil]

end Registry

/-- The registrations among calls. -/
def registrations (calls : List Call) : List Registration := calls.filterMap Call.registration?

theorem registrations_append (calls calls' : List Call) :
    registrations (calls ++ calls') = registrations calls ++ registrations calls' :=
  List.filterMap_append

theorem registrations_concat_register (calls : List Call) (x : Registration) :
    registrations (calls ++ [.register x]) = registrations calls ++ [x] := by
  simp [registrations, Call.registration?]

/-- The registrations since all was last forgotten. -/
def standing (calls : List Call) : List Registration :=
  calls.foldl (fun l c => match c with
    | .register x => l ++ [x]
    | .clear => []) []

@[simp] theorem standing_concat_register (calls : List Call) (x : Registration) :
    standing (calls ++ [.register x]) = standing calls ++ [x] := by
  rw [standing, List.foldl_append]
  rfl

@[simp] theorem standing_concat_clear (calls : List Call) : standing (calls ++ [.clear]) = [] := by
  rw [standing, List.foldl_append]
  rfl

theorem standing_sublist (calls : List Call) : (standing calls).Sublist (registrations calls) := by
  induction calls using List.reverseRecOn with
  | nil => exact .slnil
  | append_singleton calls c ih =>
    cases c with
    | register x =>
      rw [standing_concat_register, registrations_concat_register]
      exact ih.append_right [x]
    | clear =>
      rw [standing_concat_clear]
      exact List.nil_sublist _

/-! ### Places

Whatever a run holds was put there for the entity of one of its registrations since all was last
forgotten, at the place that the entity had then. -/

/-- Something that is held where a registration put it. -/
def Registration.Places {α : Type} (x : Registration) (h : Holding α) : Prop :=
  x.entity = h.entity ∧ ∃ k, h.entity.key x.objects = .ok k ∧ k.place = h.place

/-- Holdings that registrations put. -/
def Holdings.PlacedBy {α : Type} (l : List Registration) (m : Holdings α) : Prop :=
  ∀ h ∈ m, ∃ x ∈ l, x.Places h

structure Registry.PlacedBy (l : List Registration) (r : Registry) : Prop where
  tables : Holdings.PlacedBy l r.tables
  pendingColumns : Holdings.PlacedBy l r.pendingColumns
  pendingRelations : Holdings.PlacedBy l r.pendingRelations

namespace Holdings.PlacedBy

variable {α : Type} {m : Holdings α} {l : List Registration} {x : Registration} {k : Key}

theorem concat (hm : PlacedBy l m) (x : Registration) : PlacedBy (l ++ [x]) m := by
  intro h hh
  obtain ⟨y, hy, hp⟩ := hm h hh
  exact ⟨y, List.mem_append_left _ hy, hp⟩

theorem erase (hm : PlacedBy l m) : PlacedBy l (Holdings.erase x.objects m k) :=
  fun h hh => hm h (List.mem_filter.mp hh).1

theorem put (hm : PlacedBy l m) (hk : x.entity.key x.objects = .ok k) (a : α) :
    PlacedBy (l ++ [x]) (Holdings.put x.objects m k x.entity a) := by
  intro h hh
  rcases mem_put hh with hh | ⟨g, hg, rfl⟩ | ⟨-, rfl⟩
  · exact hm.concat x h hh
  · exact hm.concat x g hg
  · exact ⟨x, by simp, rfl, k, hk, rfl⟩

end Holdings.PlacedBy

namespace Registry

theorem PlacedBy.step {r : Registry} {l : List Registration} (hr : r.PlacedBy l)
    (x : Registration) : Registry.PlacedBy (l ++ [x]) (x.run r).state := by
  rcases x.state_cases r with h | ⟨k, a, hk, -, -, h⟩
  · rw [h]
    exact ⟨hr.tables.concat x, hr.pendingColumns.concat x, hr.pendingRelations.concat x⟩
  · rw [h]
    cases a with
    | column c => exact ⟨hr.tables.concat x, hr.pendingColumns.put hk _,
        hr.pendingRelations.concat x⟩
    | relation l => exact ⟨hr.tables.concat x, hr.pendingColumns.concat x,
        hr.pendingRelations.put hk _⟩
    | table t => exact ⟨hr.tables.put hk _, hr.pendingColumns.erase.concat x,
        hr.pendingRelations.erase.concat x⟩

theorem placedBy_after (calls : List Call) :
    (Registry.after ∅ calls).PlacedBy (standing calls) := by
  induction calls using List.reverseRecOn with
  | nil => constructor <;> intro h hh <;> cases hh
  | append_singleton calls c ih =>
    rw [after_concat]
    cases c with
    | register x =>
      rw [standing_concat_register]
      exact ih.step x
    | clear => constructor <;> intro h hh <;> cases hh

end Registry

/-! ### Views

The objects of each registration are a view of the entities, as keys. Dictionaries ask of their keys
that they last; those of classes do in every view. -/

/-- Objects over which the entities of registrations are the keys that they were registered as. -/
def Sees (objects : Objects) (l : List Registration) : Prop :=
  ∀ x ∈ l, (x.entity.key objects).toOption = x.key?

/-- Registrations whose entities stay the keys that they were registered as. -/
def Steady (l : List Registration) : Prop :=
  l.Pairwise fun x y => (x.entity.key y.objects).toOption = x.key?

/-- Objects over which every registered entity is the key that it was registered as. -/
def SeenBy (objects : Objects) (calls : List Call) : Prop :=
  ∀ x ∈ registrations calls, (x.entity.key objects).toOption = x.key?

/-- Calls whose entities are the same keys in all of their views. -/
def Lasting (calls : List Call) : Prop := ∀ x ∈ registrations calls, SeenBy x.objects calls

namespace Sees

variable {objects : Objects} {l l' : List Registration}

theorem of_append (h : Sees objects (l ++ l')) : Sees objects l :=
  fun x hx => h x (List.mem_append_left _ hx)

end Sees

namespace Steady

variable {l l' : List Registration} {x : Registration}

theorem of_append (h : Steady (l ++ l')) : Steady l := (List.pairwise_append.mp h).1

/-- The entities are what they were to the last registration. -/
theorem sees_last (h : Steady (l ++ [x])) : Sees x.objects (l ++ [x]) := by
  intro y hy
  rcases List.mem_append.mp hy with hy | hy
  · exact (List.pairwise_append.mp h).2.2 y hy x (List.mem_singleton_self x)
  · rw [List.mem_singleton.mp hy]
    rfl

end Steady

theorem SeenBy.sees {objects : Objects} {calls : List Call} (h : SeenBy objects calls) :
    Sees objects (standing calls) :=
  fun x hx => h x ((standing_sublist calls).subset hx)

theorem Lasting.steady {calls : List Call} (h : Lasting calls) : Steady (standing calls) :=
  List.Pairwise.sublist (standing_sublist calls)
    (List.pairwise_of_forall_mem_list fun x hx y hy => h y hy x hx)

theorem SeenBy.sees_concat {objects : Objects} {calls : List Call} {x : Registration}
    (h : SeenBy objects (calls ++ [.register x])) : Sees objects (standing calls ++ [x]) :=
  standing_concat_register calls x ▸ h.sees

theorem Lasting.steady_concat {calls : List Call} {x : Registration}
    (h : Lasting (calls ++ [.register x])) : Steady (standing calls ++ [x]) :=
  standing_concat_register calls x ▸ h.steady

@[simp] theorem Value.key_cls (objects : Objects) (c : ClassRef) :
    (cls c).key objects = .ok (.atom (.cls c)) := by
  simp [key, keyWith]

/-- The view where there are no objects. -/
def noObjects : Objects where
  shown _ _ := .error (.unhashable "object")
  told _ := .error (.unhashable "object")
  key _ := .error (.unhashable "object")
  read _ _ := .error (.unhashable "object")
  rule _ _ := .denied
  items? _ := none

theorem seenBy_of_classes {calls : List Call}
    (h : ∀ x ∈ registrations calls, ∃ c, x.entity = .cls c) (objects : Objects) :
    SeenBy objects calls := by
  intro x hx
  obtain ⟨c, hc⟩ := h x hx
  simp [Registration.key?, hc]

theorem lasting_of_classes {calls : List Call}
    (h : ∀ x ∈ registrations calls, ∃ c, x.entity = .cls c) : Lasting calls :=
  fun x _ => seenBy_of_classes h x.objects

theorem SeenBy.of_append {objects : Objects} {calls calls' : List Call}
    (h : SeenBy objects (calls ++ calls')) : SeenBy objects calls :=
  fun x hx => h x (by simp [registrations_append, hx])

theorem Lasting.of_append {calls calls' : List Call} (h : Lasting (calls ++ calls')) :
    Lasting calls :=
  fun x hx => (h x (by simp [registrations_append, hx])).of_append

/-- Two views of the same keys find the same. -/
theorem Holdings.PlacedBy.get?_congr {α : Type} {m : Holdings α} {l : List Registration}
    (hm : m.PlacedBy l) {objects objects' : Objects} (h : Sees objects l) (h' : Sees objects' l)
    (k : Key) : get? objects m k = get? objects' m k := by
  induction m with
  | nil => rfl
  | cons g m ih =>
    obtain ⟨x, hx, he, -⟩ := hm g List.mem_cons_self
    have hg : g.isFor objects k = g.isFor objects' k := by
      simp only [Holding.isFor, ← he, h x hx, h' x hx]
    rw [get?_cons, get?_cons, hg, ih fun f hf => hm f (List.mem_cons_of_mem _ hf)]

theorem Registry.PlacedBy.entry_congr {r : Registry} {l : List Registration} (hr : r.PlacedBy l)
    {objects objects' : Objects} (h : Sees objects l) (h' : Sees objects' l) (k : Key) :
    r.entry objects k = r.entry objects' k := by
  simp only [entry, tableAt?, pendingColumnsOf, pendingRelationsOf, hr.tables.get?_congr h h',
    hr.pendingColumns.get?_congr h h', hr.pendingRelations.get?_congr h h']

namespace Registry

variable {calls : List Call} {x : Registration} {objects : Objects}

theorem mem_registrations_concat (calls : List Call) (x : Registration) :
    x ∈ registrations (calls ++ [.register x]) := by
  simp [registrations_concat_register]

/-- In every view, a registration changes the entry of its entity alone. -/
theorem entry_step (hs : Steady (standing calls ++ [x])) (ho : Sees objects (standing calls ++ [x]))
    (k : Key) :
    (Registry.after ∅ (calls ++ [.register x])).entry objects k =
      if x.key? = some k then ((Registry.after ∅ calls).entry objects k).after x
      else (Registry.after ∅ calls).entry objects k := by
  have hx := hs.sees_last
  have hplaced := placedBy_after (calls ++ [.register x])
  rw [standing_concat_register] at hplaced
  rw [hplaced.entry_congr ho hx k,
    (placedBy_after calls).entry_congr ho.of_append hx.of_append k, after_concat, Call.run]
  cases hkey : x.key? with
  | none =>
    obtain ⟨f, hk⟩ := Registration.key?_eq_none.mp hkey
    rw [Registration.run_of_unhashable hk, if_neg (by rintro ⟨⟩)]
  | some j =>
    rw [Registration.entry_run (Registration.key?_eq_some.mp hkey)]
    by_cases h : j = k
    · rw [if_pos h, h, if_pos rfl]
    · rw [if_neg h, if_neg fun e => h (Option.some.inj e)]

/-- How a registration ends can be told in every view. -/
theorem run_seen (hs : Steady (standing calls ++ [x])) (ho : Sees objects (standing calls))
    {k : Key} (hk : x.key? = some k) :
    (x.run (Registry.after ∅ calls)).result =
        (x.verdict ((Registry.after ∅ calls).entry objects k)).result ∧
      (x.run (Registry.after ∅ calls)).log =
        (x.verdict ((Registry.after ∅ calls).entry objects k)).log := by
  rw [(placedBy_after calls).entry_congr ho hs.sees_last.of_append k, Registration.run_eq,
    Registration.key?_eq_some.mp hk]
  exact ⟨rfl, rfl⟩

end Registry

end RecordSql
