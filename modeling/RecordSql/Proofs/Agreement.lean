import RecordSql.Builder
import RecordSql.Mapper
import RecordSql.Proofs.Refinement
import RecordSql.Proofs.Views
import RecordSql.Proofs.World.Reading

/-! Views that agree: they differ at most in the texts of objects and in the registries of classes,
and objects are the same keys in them. What is asked of values in a build is the same in both, and
so is what the built-in transformers and handlers make of them. -/

namespace RecordSql

open RecordSql.Action
open World (registryAttribute)

namespace Value

/-! ### Values without objects -/

/-- A value in which there is no object: all views write it in the same way. -/
def Objectless (v : Value) : Prop := ∀ i, .object i ∉ v.references

theorem mem_of_serial {n : Nat} {l : List Reference} {r : Reference} (h : r ∈ l) :
    r ∈ serialReference n ++ l := List.mem_append_right _ h

mutual

theorem shownWith_congr (t t' : ObjectText) (running : Running) :
    ∀ v : Value, (∀ i, .object i ∉ v.references) →
      v.shownWith t running = v.shownWith t' running
  | null, _ | bool true, _ | bool false, _ | int _, _ | float _, _ | text _, _ | bytes _, _
  | feed _, _ | cls _, _ | member _ _, _ => by simp only [shownWith]
  | list l n, h => by
    rw [shownWith, shownWith, shownItems_congr t t' _ l fun i hi => h i (mem_of_serial hi)]
  | tuple [] n, _ => by simp only [shownWith, shownItems]
  | tuple [v] n, h => by
    rw [shownWith, shownWith, shownWith_congr t t' _ v fun i hi =>
      h i (mem_of_serial (List.mem_append_left _ hi))]
  | tuple (v :: u :: l) n, h => by
    rw [shownWith, shownWith, shownItems_congr t t' _ (v :: u :: l) fun i hi =>
      h i (mem_of_serial hi)]
    all_goals simp
  | set [] _, _ => by simp only [shownWith]
  | set (v :: l) n, h => by
    rw [shownWith, shownWith, shownItems_congr t t' _ (v :: l) fun i hi => h i (mem_of_serial hi)]
    all_goals simp
  | fixedSet [] _, _ => by simp only [shownWith]
  | fixedSet (v :: l) n, h => by
    rw [shownWith, shownWith, shownItems_congr t t' _ (v :: l) fun i hi => h i (mem_of_serial hi)]
    all_goals simp
  | dict es n, h => by
    rw [shownWith, shownWith, shownEntries_congr t t' _ es fun i hi => h i (mem_of_serial hi)]
  | literal v n, h => by
    rw [shownWith, shownWith, shownWith_congr t t' _ v fun i hi => h i (mem_of_serial hi)]
  | operator u v n, h => by
    rw [shownWith, shownWith, shownWith_congr t t' _ u fun i hi =>
        h i (List.mem_append_left _ (mem_of_serial hi)),
      shownWith_congr t t' _ v fun i hi => h i (List.mem_append_right _ hi)]
  | object i _, h => absurd List.mem_cons_self (h i)

theorem shownItems_congr (t t' : ObjectText) (running : Running) :
    ∀ l : List Value, (∀ i, .object i ∉ referencesOf l) →
      shownItems t running l = shownItems t' running l
  | [], _ => by simp only [shownItems]
  | v :: l, h => by
    rw [shownItems, shownItems,
      shownWith_congr t t' _ v fun i hi => h i (List.mem_append_left _ hi),
      shownItems_congr t t' _ l fun i hi => h i (List.mem_append_right _ hi)]

theorem shownEntries_congr (t t' : ObjectText) (running : Running) :
    ∀ es : List (Value × Value), (∀ i, .object i ∉ entryReferences es) →
      shownEntries t running es = shownEntries t' running es
  | [], _ => by simp only [shownEntries]
  | (k, v) :: es, h => by
    rw [shownEntries, shownEntries,
      shownWith_congr t t' _ k fun i hi =>
        h i (List.mem_append_left _ (List.mem_append_left _ hi)),
      shownWith_congr t t' _ v fun i hi =>
        h i (List.mem_append_left _ (List.mem_append_right _ hi)),
      shownEntries_congr t t' _ es fun i hi => h i (List.mem_append_right _ hi)]

end

theorem Objectless.written {v : Value} (h : v.Objectless) (objects objects' : Objects) :
    v.written objects = v.written objects' := by
  cases v with
  | object i c => exact absurd List.mem_cons_self (h i)
  | text s => rfl
  | _ => exact shownWith_congr objects.shown objects'.shown [] _ h

theorem objectless_text (s : String) : (text s).Objectless := fun _ h => nomatch h

end Value

/-! ### Views that agree -/

/-- Views that differ at most in texts and in the registries of classes: objects are the same keys
in them. -/
structure Objects.Agree (objects objects' : Objects) : Prop
    extends Objects.Akin objects objects' where
  key : objects'.key = objects.key

namespace Objects.Agree

variable {objects objects' : Objects} (h : Objects.Agree objects objects')

include h

theorem key_eq (v : Value) : v.key objects' = v.key objects := by
  rw [Value.key, h.key, Value.key]

theorem putDistinct (k : Key) (e : Value × Value) (m : Assoc Key (Value × Value)) :
    Value.putDistinct objects' k e m = Value.putDistinct objects k e m := by
  induction m with
  | nil => rfl
  | cons d m ih => simp only [Value.putDistinct, h.checkEquality, ih]

theorem distinct (l : List Value) : Value.distinct objects' l = Value.distinct objects l := by
  unfold Value.distinct Value.distinctEntries
  simp only [h.key_eq, h.putDistinct]

theorem elements (v : Value) : v.elements objects' = v.elements objects := by
  cases v <;> simp only [Value.elements, h.items]

theorem upcoming (v : Value) : v.upcoming objects' = v.upcoming objects := by
  cases v <;> simp only [Value.upcoming, h.items]

theorem members (v : Value) : v.members objects' = v.members objects := by
  cases v <;> simp only [Value.members, h.elements, h.distinct, h.key_eq]

theorem holds (v : Value) (key : String) : v.holds objects' key = v.holds objects key := by
  cases v <;> simp only [Value.holds, h.contains, h.checkEquality, h.among]

theorem operatorEntries (es : List (Value × Value)) :
    Condition.operatorEntries objects' es = Condition.operatorEntries objects es := by
  induction es with
  | nil => rfl
  | cons e es ih =>
    obtain ⟨k, v⟩ := e
    cases k <;> simp only [Condition.operatorEntries, h.checkKind, ih]

theorem ofValue (strict : Except Fault Bool) (key v : Value) :
    Condition.ofValue objects' strict key v = Condition.ofValue objects strict key v := by
  cases v <;> simp only [Condition.ofValue, h.operatorEntries, h.checkKind, h.checkClass]

theorem handler (ops : Operators) (token : Value) :
    ops.handler objects' token = ops.handler objects token := by
  rw [Operators.handler, h.key_eq, Operators.handler]

theorem column? (t : Table) (key : Value) : t.column? objects' key = t.column? objects key :=
  h.sought key _ _

theorem relation? (t : Table) (key : Value) : t.relation? objects' key = t.relation? objects key :=
  h.sought key _ _

end Objects.Agree

/-! ### Callers' functions -/

/-- Bindings of which one binds what the other does. -/
def Binding.Follows (bind bind' : Binding) : Prop := ∀ v x, bind v = .ok x → bind' v = .ok x

/-- A transformer that converts a value in the same way in views that agree. -/
def Transformer.Steadfast (t : Transformer) : Prop :=
  ∀ objects objects', Objects.Agree objects objects' → ∀ v x,
    (t.store objects v = .ok x → t.store objects' v = .ok x) ∧
    (t.load objects v = .ok x → t.load objects' v = .ok x)

/-- A handler that makes the same predicate in views that agree. -/
def Handler.Steadfast (h : Handler) : Prop :=
  ∀ objects objects', Objects.Agree objects objects' → ∀ reference operand bind bind',
    Binding.Follows bind bind' →
      Action.Follows (· = ·) (h objects reference operand bind) (h objects' reference operand bind')

def Operators.Steadfast (ops : Operators) : Prop := ∀ e ∈ ops, e.2.Steadfast

/-- A table whose values are converted in the same way in views that agree. -/
def Table.Steadfast (t : Table) : Prop :=
  ∀ c ∈ t.columns, ∀ f, c.transformer = some f → f.Steadfast

/-! ### Actions that agree -/

namespace Action.Follows

variable {σ α γ : Type}

theorem refl (x : Action σ α) : Follows (· = ·) x x := fun _ a ha => ⟨a, ha, rfl, rfl⟩

/-- What is computed in two ways that agree. -/
theorem agreed {e e' : Except Error α} {f g : α → Action σ γ} (h : ∀ a, e = .ok a → e' = .ok a)
    (hf : ∀ a, e = .ok a → Follows (· = ·) (f a) (g a)) :
    Follows (· = ·) (liftM e >>= f) (liftM e' >>= g) := by
  cases e with
  | error e => exact fun _ _ hs => nomatch hs
  | ok a =>
    rw [h a rfl]
    exact hf a rfl

theorem agreedFault {e e' : Except Fault α} {f g : α → Action σ γ}
    (h : ∀ a, e = .ok a → e' = .ok a) (hf : ∀ a, e = .ok a → Follows (· = ·) (f a) (g a)) :
    Follows (· = ·) (liftM e >>= f) (liftM e' >>= g) := by
  cases e with
  | error e => exact fun _ _ hs => nomatch hs
  | ok a =>
    rw [h a rfl]
    exact hf a rfl

theorem mapM_eq {f g : α → Action σ γ} {l : List α} (hf : ∀ a ∈ l, Follows (· = ·) (f a) (g a)) :
    Follows (· = ·) (l.mapM f) (l.mapM g) := by
  intro s as hs
  obtain ⟨bs, hbs, hstate, hrel⟩ := Follows.mapM hf s as hs
  rw [List.forall₂_eq_eq_eq] at hrel
  exact ⟨bs, hbs, hstate, hrel⟩

end Action.Follows

theorem mapM_agreed {ε α β : Type} {f g : α → Except ε β} {l : List α}
    (h : ∀ a ∈ l, ∀ b, f a = .ok b → g a = .ok b) {bs : List β} (hf : l.mapM f = .ok bs) :
    l.mapM g = .ok bs := by
  obtain ⟨cs, hcs, hrel⟩ :=
    mapM_related (r := (· = ·)) (fun a ha b hb => ⟨b, h a ha b hb, rfl⟩) hf
  rw [List.forall₂_eq_eq_eq] at hrel
  rw [hrel, hcs]

/-! ### Built-in handlers -/

section Steadfast

variable {objects objects' : Objects}

namespace Handler

theorem steadfast_comparison (symbol : String) : (comparison symbol).Steadfast := by
  intro objects objects' h reference operand bind bind' hb
  exact .agreed (hb operand) fun _ _ => .refl _

theorem steadfast_like : like.Steadfast := fun _ _ _ _ _ _ _ _ => .refl _

theorem steadfast_null : null.Steadfast := by
  intro objects objects' h reference operand bind bind' hb
  unfold null
  rw [h.truth]
  exact .refl _

theorem steadfast_member : member.Steadfast := by
  intro objects objects' h reference operand bind bind' hb
  unfold member
  split
  · exact .fail
  · exact .fail
  · rw [h.checkKind, h.isIterable, h.elements]
    refine .agreedFault (fun _ h => h) fun _ _ => .agreedFault (fun _ h => h) fun b _ => ?_
    split
    · refine .bind (.refl _) fun items _ hitems => ?_
      subst hitems
      split
      · exact .refl _
      · exact .agreed (fun l => mapM_agreed fun v _ => hb v) fun _ _ => .refl _
    · exact .fail

end Handler

theorem Operators.steadfast_builtin : builtin.Steadfast := by
  simp only [Operators.Steadfast, builtin, List.forall_mem_cons, Handler.steadfast_comparison,
    Handler.steadfast_like, Handler.steadfast_null, Handler.steadfast_member]
  simp

end Steadfast

end RecordSql
