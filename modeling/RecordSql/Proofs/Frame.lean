import RecordSql.Action

/-! Actions that leave a part of the state as it is, however they end. -/

namespace RecordSql.Action

variable {σ ρ α β : Type} {part : σ → ρ}

/-- An action that leaves a part of the state as it is. -/
def Keeps (part : σ → ρ) (x : Action σ α) : Prop := ∀ s, part (x s).state = part s

namespace Keeps

theorem pure (a : α) : Keeps part (Pure.pure a : Action σ α) := fun _ => rfl

theorem bind {x : Action σ α} {f : α → Action σ β} (hx : Keeps part x)
    (hf : ∀ a, Keeps part (f a)) : Keeps part (x >>= f) := by
  intro s
  rw [bind_run]
  have hs := hx s
  rcases hr : x s with ⟨_ | a, t, log⟩
  · rwa [hr] at hs
  · rw [hr] at hs
    exact (hf a t).trans hs

theorem get : Keeps part (Action.get : Action σ σ) := fun _ => rfl

theorem faulty (f : Fault) : Keeps part (Action.faulty f : Action σ α) := fun _ => rfl

theorem ofFault (r : Except Fault α) : Keeps part (Action.ofFault r : Action σ α) := fun _ => rfl

theorem liftedFault (r : Except Fault α) : Keeps part (liftM r : Action σ α) := fun _ => rfl

theorem modify {f : σ → σ} (hf : ∀ s, part (f s) = part s) : Keeps part (Action.modify f) := hf

/-- What is set may come from the state before. -/
theorem getBind {f : σ → Action σ α} (hf : ∀ s, part (f s s).state = part s) :
    Keeps part (Action.get >>= f) := hf

theorem mapError {x : Action σ α} (hx : Keeps part x) (f : Error → Error) :
    Keeps part (x.mapError f) := hx

theorem ite {c : Prop} [Decidable c] {x y : Action σ α} (hx : Keeps part x) (hy : Keeps part y) :
    Keeps part (if c then x else y) := by
  split
  · exact hx
  · exact hy

theorem forM {f : β → Action σ Unit} (hf : ∀ b, Keeps part (f b)) (l : List β) :
    Keeps part (l.forM f) := by
  induction l with
  | nil => exact pure ()
  | cons b l ih => exact bind (hf b) fun _ => ih

theorem mapM {f : β → Action σ α} (hf : ∀ b, Keeps part (f b)) (l : List β) :
    Keeps part (l.mapM f) := by
  induction l with
  | nil => exact pure []
  | cons b l ih =>
    rw [List.mapM_cons]
    exact bind (hf b) fun _ => bind ih fun _ => pure _

/-- Actions that are the same while a part of the state is as it was are the same one after the
other, if they leave it so. -/
theorem mapM_congr {f g : β → Action σ α} (hf : ∀ b, Keeps part (f b)) {p : ρ}
    (h : ∀ b s, part s = p → f b s = g b s) (l : List β) {s : σ} (hs : part s = p) :
    l.mapM f s = l.mapM g s := by
  induction l generalizing s with
  | nil => rfl
  | cons b l ih =>
    rw [List.mapM_cons, List.mapM_cons, bind_run, bind_run, ← h b s hs]
    have hk := hf b s
    rcases hr : f b s with ⟨_ | a, t, log⟩
    · rfl
    · rw [hr] at hk
      have hl : l.mapM f t = l.mapM g t := ih (hk.trans hs)
      dsimp only
      rw [bind_run, bind_run, hl]

end Keeps

/-- An action that leaves one state as it is, however it ends. -/
def Rests (x : Action σ α) (s : σ) : Prop := (x s).state = s

namespace Rests

variable {s : σ}

theorem pure (a : α) : Rests (Pure.pure a : Action σ α) s := rfl

theorem fail (e : Error) : Rests (Action.fail e : Action σ α) s := rfl

theorem report (n : Notice) : Rests (Action.report n) s := rfl

theorem lifted (r : Except Error α) : Rests (liftM r : Action σ α) s := rfl

theorem liftedFault (r : Except Fault α) : Rests (liftM r : Action σ α) s := rfl

theorem bind {x : Action σ α} {f : α → Action σ β} (hx : Rests x s)
    (hf : ∀ a, (x s).result = .ok a → Rests (f a) s) : Rests (x >>= f) s := by
  rw [Rests] at hx
  rw [Rests, bind_run]
  rcases hr : x s with ⟨_ | a, t, log⟩
  · rwa [hr] at hx
  · rw [hr] at hx hf
    cases hx
    exact hf a rfl

theorem mapM {f : β → Action σ α} {l : List β} (hf : ∀ b ∈ l, Rests (f b) s) :
    Rests (l.mapM f) s := by
  induction l with
  | nil => exact pure []
  | cons b l ih =>
    rw [List.mapM_cons]
    exact bind (hf b List.mem_cons_self) fun _ _ =>
      bind (ih fun b' hb => hf b' (List.mem_cons_of_mem _ hb)) fun _ _ => pure _

end Rests

end RecordSql.Action
