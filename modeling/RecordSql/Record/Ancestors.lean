/-! The order of a class's ancestors: each class before its bases, bases in the order they are named
in, and every class's own order kept. -/

namespace RecordSql.Ancestors

/-- Takes a class off the front of an order. -/
def dropFront (c : Nat) : List Nat → List Nat
  | [] => []
  | d :: l => if d = c then l else d :: l

/-- Takes a class off the front of every order. -/
def dropFronts (c : Nat) (orders : List (List Nat)) : List (List Nat) := orders.map (dropFront c)

/-- The first class in front of an order that stands behind no other class of any order. -/
def next? (orders : List (List Nat)) : Option Nat :=
  orders.findSome? fun l => match l with
    | [] => none
    | c :: _ => if orders.all fun m => !m.tail.contains c then some c else none

/-- How many entries are left to be merged. -/
def weight : List (List Nat) → Nat
  | [] => 0
  | l :: orders => l.length + weight orders

theorem length_dropFront_le (c : Nat) (l : List Nat) : (dropFront c l).length ≤ l.length := by
  cases l with
  | nil => simp [dropFront]
  | cons d l => by_cases h : d = c <;> simp [dropFront, h]

theorem weight_dropFronts_le (c : Nat) (orders : List (List Nat)) :
    weight (dropFronts c orders) ≤ weight orders := by
  induction orders with
  | nil => simp [weight, dropFronts]
  | cons l orders ih =>
    have := length_dropFront_le c l
    simp only [weight, dropFronts, List.map_cons] at *
    omega

theorem weight_dropFronts_lt {c : Nat} {l : List Nat} {orders : List (List Nat)}
    (h : c :: l ∈ orders) : weight (dropFronts c orders) < weight orders := by
  induction orders with
  | nil => simp at h
  | cons m orders ih =>
    rcases List.mem_cons.1 h with rfl | h
    · have := weight_dropFronts_le c orders
      simp only [weight, dropFronts, List.map_cons, dropFront, if_true, List.length_cons] at *
      omega
    · have := length_dropFront_le c m
      have := ih h
      simp only [weight, dropFronts, List.map_cons] at *
      omega

theorem next?_front {orders : List (List Nat)} {c : Nat} (h : next? orders = some c) :
    ∃ l, c :: l ∈ orders := by
  obtain ⟨m, hm, hc⟩ := List.exists_of_findSome?_eq_some h
  cases m with
  | nil => simp at hc
  | cons d m =>
    simp only [Option.ite_none_right_eq_some, Option.some.injEq] at hc
    exact ⟨m, hc.2 ▸ hm⟩

/-- Merges several orders into one that keeps them all. When there is none, the classes that are
left in front tell why. -/
def merge (orders : List (List Nat)) : Except (List Nat) (List Nat) :=
  match h : next? orders with
  | none =>
    if orders.all List.isEmpty then .ok [] else .error (orders.filterMap List.head?).eraseDups
  | some c =>
    have : weight (dropFronts c orders) < weight orders :=
      (next?_front h).elim fun _ hl => weight_dropFronts_lt hl
    (merge (dropFronts c orders)).map (c :: ·)
termination_by weight orders

/-- The order of a class with the given bases, of which each has its own order. -/
def linearise (c : Nat) (bases : List Nat) (order : Nat → List Nat) :
    Except (List Nat) (List Nat) :=
  (merge (bases.map order ++ [bases])).map (c :: ·)

end RecordSql.Ancestors
