import RecordSql.Error
import RecordSql.Proofs.Computation

/-! Where actions end: from every state that meets a condition, in an error of some sort, or in a
result and a state that meet a further condition. -/

namespace RecordSql

/-- Whether an error is one of the library's own. -/
def Error.IsOwn (e : Error) : Prop := ∀ kind, e.family ≠ .foreign kind

theorem Error.not_isOwn_fault (f : Fault) : ¬(Error.fault f).IsOwn := fun h => h f.kind rfl

/-- One of the library's own errors that reaches the caller as it is, unless it tells of a fault
that has no text. -/
structure Error.IsTold (e : Error) : Prop where
  own : e.IsOwn
  settled : ∀ objects : Objects, e.settled objects = e ∨
    ∃ cause f, e.cause? = some cause ∧ cause.message objects.shown = .error f

namespace Error.IsTold

theorem of_message {e : Error} (own : e.IsOwn) (h : ∀ objects, ∃ s, e.message objects = .ok s) :
    e.IsTold where
  own := own
  settled objects := by
    obtain ⟨s, hs⟩ := h objects
    rw [Error.settled, hs]
    exact .inl rfl

theorem transformation (column : String) (direction : Direction) (cause : Fault) :
    (Error.transformation column direction cause).IsTold where
  own _ h := nomatch h
  settled objects := by
    cases hc : cause.message objects.shown with
    | ok s =>
      rw [Error.settled, Error.message, hc]
      exact .inl rfl
    | error f => exact .inr ⟨cause, f, rfl, hc⟩

theorem construction (cls : String) (cause : Fault) :
    (Error.construction cls cause).IsTold where
  own _ h := nomatch h
  settled objects := by
    cases hc : cause.message objects.shown with
    | ok s =>
      rw [Error.settled, Error.message, hc]
      exact .inl rfl
    | error f => exact .inr ⟨cause, f, rfl, hc⟩

end Error.IsTold

variable {σ τ α β : Type}

/-- An end in an error of some sort, or in a result and a state that meet a condition. -/
structure Outcome.Lands (e : Error → Prop) (q : α → σ → Prop) (o : Outcome σ α) : Prop where
  error : ∀ err, o.result = .error err → e err
  result : ∀ a, o.result = .ok a → q a o.state

namespace Action

/-- How an action ends from every state that meets a condition. -/
def Lands (p : σ → Prop) (e : Error → Prop) (q : α → σ → Prop) (x : Action σ α) : Prop :=
  ∀ s, p s → (x s).Lands e q

namespace Lands

variable {p : σ → Prop} {e : Error → Prop} {q : α → σ → Prop} {r : β → σ → Prop}

theorem pure {a : α} (h : ∀ s, p s → q a s) : Lands p e q (Pure.pure a : Action σ α) :=
  fun s hs => ⟨fun _ h' => (nomatch h'), fun _ h' => Except.ok.inj h' ▸ h s hs⟩

theorem fail {err : Error} (h : e err) : Lands p e q (Action.fail err : Action σ α) :=
  fun _ _ => ⟨fun _ h' => Except.error.inj h' ▸ h, fun _ h' => (nomatch h')⟩

theorem faulty {f : Fault} (h : e (.fault f)) : Lands p e q (Action.faulty f : Action σ α) := fail h

theorem report (n : Notice) : Lands p e (fun _ => p) (Action.report n : Action σ Unit) :=
  fun _ hs => ⟨fun _ h' => (nomatch h'), fun _ _ => hs⟩

theorem modify {f : σ → σ} {q : Unit → σ → Prop} (h : ∀ s, p s → q () (f s)) :
    Lands p e q (Action.modify f) :=
  fun s hs => ⟨fun _ h' => (nomatch h'), fun _ _ => h s hs⟩

theorem set {s : σ} {q : Unit → σ → Prop} (h : ∀ s', p s' → q () s) : Lands p e q (Action.set s) :=
  fun s' hs => ⟨fun _ h' => (nomatch h'), fun _ _ => h s' hs⟩

theorem ofExcept {x : Except Error α} (he : ∀ err, x = .error err → e err)
    (hq : ∀ a s, x = .ok a → p s → q a s) : Lands p e q (Action.ofExcept x : Action σ α) :=
  fun s hs => ⟨he, fun a ha => hq a s ha hs⟩

/-- A pure result in the place of an action. -/
theorem lifted {x : Except Error α} (h : ∀ err, x = .error err → e err) :
    Lands p e (fun a s => x = .ok a ∧ p s) (liftM x : Action σ α) :=
  ofExcept h fun _ _ ha hs => ⟨ha, hs⟩

theorem liftedFault {x : Except Fault α} (h : ∀ f, x = .error f → e (.fault f)) :
    Lands p e (fun a s => x = .ok a ∧ p s) (liftM x : Action σ α) :=
  ofExcept
    (fun _ herr => by
      obtain ⟨f, hf, rfl⟩ := mapError_eq_error.mp herr
      exact h f hf)
    fun _ _ ha hs => ⟨mapError_eq_ok.mp ha, hs⟩

/-- What follows a pure result that is known. -/
theorem known {x : Except Fault β} {b : β} (hx : x = .ok b) {f : β → Action σ α}
    (h : Lands p e q (f b)) : Lands p e q ((liftM x : Action σ β) >>= f) := by
  subst hx
  exact fun s hs => h s hs

theorem mono {p' : σ → Prop} {e' : Error → Prop} {q' : α → σ → Prop} {x : Action σ α}
    (h : Lands p e q x) (hp : ∀ s, p' s → p s) (he : ∀ err, e err → e' err)
    (hq : ∀ a s, q a s → q' a s) : Lands p' e' q' x :=
  fun s hs => ⟨fun err herr => he err ((h s (hp s hs)).error err herr),
    fun a ha => hq a _ ((h s (hp s hs)).result a ha)⟩

theorem bind {x : Action σ β} {f : β → Action σ α} (hx : Lands p e r x)
    (hf : ∀ b, Lands (r b) e q (f b)) : Lands p e q (x >>= f) := by
  intro s hs
  obtain ⟨herror, hresult⟩ := hx s hs
  rcases hxs : x s with ⟨err | b, t, log⟩
  · rw [hxs] at herror
    rw [bind_run_error hxs]
    exact ⟨fun _ h => Except.error.inj h ▸ herror err rfl, fun _ h => (nomatch h)⟩
  · rw [hxs] at hresult
    rw [bind_run_ok hxs]
    have hend := hf b t (hresult b rfl)
    exact ⟨hend.error, hend.result⟩

/-- What follows the state may look at it. -/
theorem getBind {f : σ → Action σ α} (h : ∀ s, p s → Lands (· = s) e q (f s)) :
    Lands p e q (Action.get >>= f) :=
  fun s hs => h s hs s rfl

/-- What does not depend on the state may be assumed beforehand. -/
theorem given {c : Prop} {x : Action σ α} (h : c → Lands p e q x) :
    Lands (fun s => c ∧ p s) e q x :=
  fun s hs => h hs.1 s hs.2

theorem assuming {c : Prop} {x : Action σ α} (h : c → Lands (fun _ => True) e q x) :
    Lands (fun _ => c) e q x :=
  fun s hs => h hs s trivial

theorem ite {c : Prop} [Decidable c] {x y : Action σ α} (hx : c → Lands p e q x)
    (hy : ¬c → Lands p e q y) : Lands p e q (if c then x else y) := by
  split
  · exact hx ‹_›
  · exact hy ‹_›

theorem forM {f : β → Action σ Unit} {l : List β} (h : ∀ b ∈ l, Lands p e (fun _ => p) (f b)) :
    Lands p e (fun _ => p) (l.forM f) := by
  induction l with
  | nil => exact .pure fun _ hs => hs
  | cons b l ih =>
    exact .bind (h b List.mem_cons_self) fun _ => ih fun b' hb => h b' (List.mem_cons_of_mem b hb)

theorem mapM {f : β → Action σ α} {l : List β} (h : ∀ b ∈ l, Lands p e (fun _ => p) (f b)) :
    Lands p e (fun _ => p) (l.mapM f) := by
  induction l with
  | nil => exact .pure fun _ hs => hs
  | cons b l ih =>
    rw [List.mapM_cons]
    exact .bind (h b List.mem_cons_self) fun _ =>
      .bind (ih fun b' hb => h b' (List.mem_cons_of_mem b hb)) fun _ => .pure fun _ hs => hs

theorem mapError {e' : Error → Prop} {f : Error → Error} {x : Action σ α} (h : Lands p e q x)
    (hf : ∀ err, e err → e' (f err)) : Lands p e' q (x.mapError f) := by
  intro s hs
  refine ⟨fun err herr => ?_, fun a ha => (h s hs).result a (mapError_eq_ok.mp ha)⟩
  obtain ⟨err', herr', rfl⟩ := mapError_eq_error.mp herr
  exact hf err' ((h s hs).error err' herr')

end Lands

end Action

end RecordSql
