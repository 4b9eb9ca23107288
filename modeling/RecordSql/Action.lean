import RecordSql.Error
import RecordSql.Notice

/-! Actions: computations over a state that report notices and may end in an error. An error keeps
what was done and reported before it. -/

namespace RecordSql

/-- How an action ended. -/
structure Outcome (σ α : Type) where
  result : Except Error α
  state : σ
  log : List Notice

/-- A computation over a state. -/
def Action (σ α : Type) : Type := σ → Outcome σ α

namespace Action

variable {σ τ α β : Type}

protected def pure (a : α) : Action σ α := fun s => ⟨.ok a, s, []⟩

protected def bind (x : Action σ α) (f : α → Action σ β) : Action σ β := fun s =>
  match x s with
  | ⟨.ok a, t, log⟩ =>
    let o := f a t
    ⟨o.result, o.state, log ++ o.log⟩
  | ⟨.error e, t, log⟩ => ⟨.error e, t, log⟩

instance : Monad (Action σ) where
  pure := Action.pure
  bind := Action.bind

theorem id_map_action (x : Action σ α) : id <$> x = x := by
  funext s
  show Action.bind x Action.pure s = x s
  simp only [Action.bind]
  rcases x s with ⟨_ | _, _, _⟩ <;> simp [Action.pure]

theorem pure_bind_action (a : α) (f : α → Action σ β) : pure a >>= f = f a := by
  funext s
  show Action.bind (Action.pure a) f s = f a s
  simp [Action.bind, Action.pure]

theorem bind_assoc_action {γ : Type} (x : Action σ α) (f : α → Action σ β) (g : β → Action σ γ) :
    x >>= f >>= g = x >>= fun a => f a >>= g := by
  funext s
  show Action.bind (Action.bind x f) g s = Action.bind x (fun a => Action.bind (f a) g) s
  simp only [Action.bind]
  rcases x s with ⟨_ | a, t, l⟩
  · rfl
  · simp only
    rcases f a t with ⟨_ | b, u, m⟩ <;> simp

instance : LawfulMonad (Action σ) :=
  LawfulMonad.mk' (Action σ) id_map_action pure_bind_action bind_assoc_action

def fail (e : Error) : Action σ α := fun s => ⟨.error e, s, []⟩

/-- Ends in a fault of the caller's values. -/
def faulty (f : Fault) : Action σ α := fail (.fault f)

/-- Ends as a pure result says. -/
def ofExcept (r : Except Error α) : Action σ α := fun s => ⟨r, s, []⟩

def ofFault (r : Except Fault α) : Action σ α := ofExcept (r.mapError .fault)

def get : Action σ σ := fun s => ⟨.ok s, s, []⟩

def set (s : σ) : Action σ Unit := fun _ => ⟨.ok (), s, []⟩

def modify (f : σ → σ) : Action σ Unit := fun s => ⟨.ok (), f s, []⟩

def report (n : Notice) : Action σ Unit := fun s => ⟨.ok (), s, [n]⟩

def within (part : τ → σ) (replace : σ → τ → τ) (x : Action σ α) : Action τ α := fun t =>
  let o := x (part t)
  ⟨o.result, replace o.state t, o.log⟩

def attempt (x : Action σ α) : Action σ (Except Error α) := fun s =>
  let o := x s
  ⟨.ok o.result, o.state, o.log⟩

/-- What an action on a larger state ends in, be it an error, with what it leaves of the further
part. -/
def attemptOn (x : Action (τ × σ) α) (t : τ) : Action σ (Except Error α × τ) := fun s =>
  let o := x (t, s)
  ⟨.ok (o.result, o.state.1), o.state.2, o.log⟩

def mapError (f : Error → Error) (x : Action σ α) : Action σ α := fun s =>
  let o := x s
  { o with result := o.result.mapError f }

instance : MonadLift (Except Error) (Action σ) := ⟨ofExcept⟩

instance : MonadLift (Except Fault) (Action σ) := ⟨ofFault⟩

/-! ### Runs -/

@[simp] theorem pure_run (a : α) (s : σ) : (pure a : Action σ α) s = ⟨.ok a, s, []⟩ := rfl

theorem bind_run (x : Action σ α) (f : α → Action σ β) (s : σ) :
    (x >>= f) s = match x s with
      | ⟨.ok a, t, log⟩ => ⟨(f a t).result, (f a t).state, log ++ (f a t).log⟩
      | ⟨.error e, t, log⟩ => ⟨.error e, t, log⟩ := rfl

theorem bind_run_ok {x : Action σ α} {s t : σ} {a : α} {log : List Notice}
    (h : x s = ⟨.ok a, t, log⟩) (f : α → Action σ β) :
    (x >>= f) s = ⟨(f a t).result, (f a t).state, log ++ (f a t).log⟩ := by
  rw [bind_run, h]

theorem bind_run_error {x : Action σ α} {s t : σ} {e : Error} {log : List Notice}
    (h : x s = ⟨.error e, t, log⟩) (f : α → Action σ β) : (x >>= f) s = ⟨.error e, t, log⟩ := by
  rw [bind_run, h]

@[simp] theorem fail_run (e : Error) (s : σ) : (fail e : Action σ α) s = ⟨.error e, s, []⟩ := rfl

@[simp] theorem get_run (s : σ) : (get : Action σ σ) s = ⟨.ok s, s, []⟩ := rfl

@[simp] theorem modify_run (f : σ → σ) (s : σ) : modify f s = ⟨.ok (), f s, []⟩ := rfl

@[simp] theorem report_run (n : Notice) (s : σ) : report n s = ⟨.ok (), s, [n]⟩ := rfl

@[simp] theorem ofExcept_run (r : Except Error α) (s : σ) :
    (ofExcept r : Action σ α) s = ⟨r, s, []⟩ := rfl

@[simp] theorem set_run (t s : σ) : (set t : Action σ Unit) s = ⟨.ok (), t, []⟩ := rfl

@[simp] theorem liftM_run (r : Except Error α) (s : σ) :
    (liftM r : Action σ α) s = ⟨r, s, []⟩ := rfl

@[simp] theorem liftM_fault_run (r : Except Fault α) (s : σ) :
    (liftM r : Action σ α) s = ⟨r.mapError .fault, s, []⟩ := rfl

@[simp] theorem ite_run (c : Prop) [Decidable c] (x y : Action σ α) (s : σ) :
    (if c then x else y) s = if c then x s else y s := by
  split <;> rfl

theorem get_bind_run (f : σ → Action σ β) (s : σ) : (get >>= f) s = f s s := rfl

theorem set_bind_run (t : σ) (f : Unit → Action σ β) (s : σ) : (set t >>= f) s = f () t := rfl

theorem liftM_bind_run (r : Except Error α) (f : α → Action σ β) (s : σ) :
    ((liftM r : Action σ α) >>= f) s = match r with
      | .ok a => f a s
      | .error e => ⟨.error e, s, []⟩ := by
  cases r <;> rfl

theorem liftM_fault_bind_run (r : Except Fault α) (f : α → Action σ β) (s : σ) :
    ((liftM r : Action σ α) >>= f) s = match r with
      | .ok a => f a s
      | .error e => ⟨.error (.fault e), s, []⟩ := by
  cases r <;> rfl

end Action

end RecordSql
