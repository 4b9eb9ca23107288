import RecordSql.Proofs.Computation

/-! Actions that do the same behind an exchange of the state. -/

namespace RecordSql

namespace Action

variable {σ α β : Type} {f : σ → σ} {p : σ → Prop} {q : α → σ → Prop}

/-- An action that does behind an exchange of the state what another one does without it, from
states with a property; where they end well, another one holds. -/
def Alongside (f : σ → σ) (p : σ → Prop) (x y : Action σ α) (q : α → σ → Prop) : Prop :=
  ∀ s, p s → y (f s) = ⟨(x s).result, f (x s).state, (x s).log⟩ ∧
    ∀ a, (x s).result = .ok a → q a (x s).state

/-- What follows a result has to be the same only for the value that it is. -/
theorem liftM_bind_congr {e : Except Error α} {g h : α → Action σ β}
    (hg : ∀ a, e = .ok a → g a = h a) : liftM e >>= g = liftM e >>= h := by
  cases e with
  | error _ => rfl
  | ok a => exact funext fun s => congrFun (hg a rfl) s

theorem liftM_fault_bind_congr {e : Except Fault α} {g h : α → Action σ β}
    (hg : ∀ a, e = .ok a → g a = h a) : liftM e >>= g = liftM e >>= h := by
  cases e with
  | error _ => rfl
  | ok a => exact funext fun s => congrFun (hg a rfl) s

namespace Alongside

theorem ofExcept {r : Except Error α} (h : ∀ a s, r = .ok a → p s → q a s) :
    Alongside f p (Action.ofExcept r) (Action.ofExcept r) q :=
  fun s hs => ⟨rfl, fun a ha => h a s ha hs⟩

theorem result {r : Except Fault α} (h : ∀ a s, r = .ok a → p s → q a s) :
    Alongside f p (liftM r : Action σ α) (liftM r) q :=
  fun s hs => ⟨rfl, fun a ha => h a s (mapError_eq_ok.mp ha) hs⟩

theorem lifted (r : Except Fault α) :
    Alongside f p (liftM r : Action σ α) (liftM r) fun _ => p := fun _ hs => ⟨rfl, fun _ _ => hs⟩

theorem pure (a : α) : Alongside f p (Pure.pure a : Action σ α) (Pure.pure a) fun _ => p :=
  fun _ hs => ⟨rfl, fun _ _ => hs⟩

theorem done {a : α} (h : ∀ s, p s → q a s) :
    Alongside f p (Pure.pure a : Action σ α) (Pure.pure a) q :=
  fun s hs => ⟨rfl, fun _ h' => Except.ok.inj h' ▸ h s hs⟩

theorem faulty (e : Fault) :
    Alongside f p (Action.faulty e : Action σ α) (Action.faulty e) q :=
  fun _ _ => ⟨rfl, fun _ h => nomatch h⟩

theorem mono {p' : σ → Prop} {q' : α → σ → Prop} {x y : Action σ α} (h : Alongside f p x y q)
    (hp : ∀ s, p' s → p s) (hq : ∀ a s, q a s → q' a s) : Alongside f p' x y q' :=
  fun s hs => ⟨(h s (hp s hs)).1, fun a ha => hq a _ ((h s (hp s hs)).2 a ha)⟩

theorem set {t t' : σ} {q : Unit → σ → Prop} (h : t' = f t) (hq : q () t) :
    Alongside f p (Action.set t) (Action.set t') q :=
  fun _ _ => ⟨by rw [h]; rfl, fun _ _ => hq⟩

theorem bind {t : β → σ → Prop} {x y : Action σ α} {g h : α → Action σ β}
    (hx : Alongside f p x y q) (hg : ∀ a, Alongside f (q a) (g a) (h a) t) :
    Alongside f p (x >>= g) (y >>= h) t := by
  intro s hs
  obtain ⟨hx, hq⟩ := hx s hs
  rw [bind_run, bind_run, hx]
  rcases hr : x s with ⟨_ | a, u, log⟩
  · exact ⟨rfl, fun _ h => nomatch h⟩
  · rw [hr] at hq
    obtain ⟨hg, ht⟩ := hg a u (hq a rfl)
    dsimp only
    rw [hg]
    exact ⟨rfl, ht⟩

theorem getBind {g h : σ → Action σ α}
    (hg : ∀ s, p s → Alongside f (fun t => t = s ∧ p t) (g s) (h (f s)) q) :
    Alongside f p (Action.get >>= g) (Action.get >>= h) q := by
  intro s hs
  rw [get_bind_run, get_bind_run]
  exact hg s hs s ⟨rfl, hs⟩

theorem ite {c : Prop} [Decidable c] {x x' y y' : Action σ α} (hx : c → Alongside f p x x' q)
    (hy : ¬c → Alongside f p y y' q) :
    Alongside f p (if c then x else y) (if c then x' else y') q := by
  split
  · exact hx ‹_›
  · exact hy ‹_›

theorem forM {g h : β → Action σ Unit} (hg : ∀ b, Alongside f p (g b) (h b) fun _ => p)
    (l : List β) : Alongside f p (l.forM g) (l.forM h) fun _ => p := by
  induction l with
  | nil => exact pure ()
  | cons b l ih => exact bind (hg b) fun _ => ih

theorem mapM {g h : β → Action σ α} (hg : ∀ b, Alongside f p (g b) (h b) fun _ => p)
    (l : List β) : Alongside f p (l.mapM g) (l.mapM h) fun _ => p := by
  induction l with
  | nil => exact pure []
  | cons b l ih =>
    rw [List.mapM_cons, List.mapM_cons]
    exact bind (hg b) fun _ => bind ih fun _ => pure _

theorem mapError {x y : Action σ α} (hx : Alongside f p x y q) (e : Error → Error) :
    Alongside f p (x.mapError e) (y.mapError e) q := by
  intro s hs
  obtain ⟨hx, hq⟩ := hx s hs
  rw [Action.mapError, Action.mapError, hx]
  exact ⟨rfl, fun a ha => hq a (mapError_eq_ok.mp ha)⟩

/-- What is known of the states as such. -/
theorem given {h : Prop} {x y : Action σ α} (hx : h → Alongside f p x y q) :
    Alongside f (fun s => h ∧ p s) x y q := fun s hs => hx hs.1 s hs.2

end Alongside

end Action

end RecordSql
