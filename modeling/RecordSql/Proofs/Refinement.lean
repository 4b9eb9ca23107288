import Mathlib.Data.List.Forall2
import RecordSql.Proofs.Computation
import RecordSql.Proofs.Frame

/-! What actions yield when they end normally, and when one of them follows another: it ends
normally where the other does, in the same state and with a result that is related. An action is
mirrored by another one that follows it and in whose result its reports can be read as well. -/

namespace RecordSql.Action

variable {σ α β γ δ : Type}

theorem bind_result_eq_ok {x : Action σ α} {f : α → Action σ β} {s : σ} {b : β} :
    ((x >>= f) s).result = .ok b ↔
      ∃ a, (x s).result = .ok a ∧ (f a (x s).state).result = .ok b := by
  rw [bind_run]
  rcases x s with ⟨_ | a, t, log⟩
  · simp
  · simp

theorem bind_result_eq_error {x : Action σ α} {f : α → Action σ β} {s : σ} {e : Error} :
    ((x >>= f) s).result = .error e ↔ (x s).result = .error e ∨
      ∃ a, (x s).result = .ok a ∧ (f a (x s).state).result = .error e := by
  rw [bind_run]
  rcases x s with ⟨_ | a, t, log⟩
  · simp
  · simp

/-- What runs after an action that ends normally goes on from the state that it leaves. -/
theorem bind_run_of_ok {x : Action σ α} {s : σ} {a : α} (h : (x s).result = .ok a)
    (f : α → Action σ β) :
    (x >>= f) s = ⟨(f a (x s).state).result, (f a (x s).state).state,
      (x s).log ++ (f a (x s).state).log⟩ := by
  rw [bind_run]
  rcases hx : x s with ⟨_ | a', t, log⟩
  · simp [hx] at h
  · rw [hx] at h
    cases h
    rfl

/-- Nothing runs after an action that ends in an error. -/
theorem bind_run_of_error {x : Action σ α} {s : σ} {e : Error} (h : (x s).result = .error e)
    (f : α → Action σ β) : (x >>= f) s = ⟨.error e, (x s).state, (x s).log⟩ := by
  rw [bind_run]
  rcases hx : x s with ⟨_ | a, t, log⟩
  · rw [hx] at h
    cases h
    rfl
  · simp [hx] at h

theorem bind_state {x : Action σ α} {s : σ} {a : α} (h : (x s).result = .ok a)
    (f : α → Action σ β) : ((x >>= f) s).state = (f a (x s).state).state := by
  rw [bind_run_of_ok h]

theorem bind_log {x : Action σ α} {s : σ} {a : α} (h : (x s).result = .ok a)
    (f : α → Action σ β) : ((x >>= f) s).log = (x s).log ++ (f a (x s).state).log := by
  rw [bind_run_of_ok h]

theorem liftM_ok_bind (a : α) (f : α → Action σ β) :
    (liftM (.ok a : Except Fault α) : Action σ α) >>= f = f a := rfl

theorem liftM_error_bind (e : Fault) (f : α → Action σ β) :
    (liftM (.error e : Except Fault α) : Action σ α) >>= f = Action.faulty e := rfl

theorem ite_bind (c : Prop) [Decidable c] (x y : Action σ α) (f : α → Action σ β) :
    (if c then x else y) >>= f = if c then x >>= f else y >>= f := by
  split <;> rfl

theorem attempt_bind_run (x : Action σ α) (f : Except Error α → Action σ β) (s : σ) :
    (x.attempt >>= f) s =
      let o := f (x s).result (x s).state
      ⟨o.result, o.state, (x s).log ++ o.log⟩ := rfl

/-- Each result of several actions one after the other comes from a run of its own. -/
theorem mapM_runs {f : α → Action σ β} {l : List α} {s : σ} {bs : List β}
    (h : (l.mapM f s).result = .ok bs) :
    List.Forall₂ (fun a b => ∃ t, (f a t).result = .ok b) l bs := by
  induction l generalizing s bs with
  | nil =>
    cases h
    exact .nil
  | cons a l ih =>
    rw [List.mapM_cons] at h
    obtain ⟨b, hb, h⟩ := bind_result_eq_ok.mp h
    obtain ⟨cs, hcs, h⟩ := bind_result_eq_ok.mp h
    cases h
    exact .cons ⟨s, hb⟩ (ih hcs)

/-- Actions that compute a result and do nothing else do so one after the other. -/
theorem mapM_computes {f : α → Action σ β} {g : α → Except Error β} {s : σ}
    (h : ∀ a, f a s = ⟨g a, s, []⟩) (l : List α) : l.mapM f s = ⟨l.mapM g, s, []⟩ := by
  induction l with
  | nil => rfl
  | cons a l ih =>
    rw [List.mapM_cons, List.mapM_cons, bind_run, h]
    cases g a with
    | error e => rfl
    | ok b =>
      dsimp only
      rw [bind_run, ih]
      cases l.mapM g <;> rfl

/-- All results of an action have a property. -/
def Yields (p : α → Prop) (x : Action σ α) : Prop := ∀ s a, (x s).result = .ok a → p a

/-- Where an action ends normally, another one does, in the same state and with a related result. -/
def Follows (r : α → β → Prop) (x : Action σ α) (y : Action σ β) : Prop :=
  ∀ s a, (x s).result = .ok a → ∃ b, (y s).result = .ok b ∧ (y s).state = (x s).state ∧ r a b

/-- An action that reports nothing, however it ends. -/
def Silent (x : Action σ α) : Prop := ∀ s, (x s).log = []

/-- An action that computes its result: it neither looks at the state nor does anything else. -/
def Computes (x : Action σ α) : Prop := ∃ r, ∀ s, x s = ⟨r, s, []⟩

/-- An action that leaves the state as it is, with a property of its results and its reports. -/
def Reports (p : α → List Notice → Prop) (x : Action σ α) : Prop :=
  ∀ s, Rests x s ∧ ∀ a, (x s).result = .ok a → p a (x s).log

/-- Where an action ends normally, another one does, in the same state and with a result that is
related to that of the first one and to its reports. -/
def Mirrored (r : α → List Notice → β → Prop) (x : Action σ α) (y : Action σ β) : Prop :=
  ∀ s a, (x s).result = .ok a →
    ∃ b, (y s).result = .ok b ∧ (y s).state = (x s).state ∧ r a (x s).log b

/-- Results and reports of several actions one after the other, related to other results. -/
inductive Along (r : α → List Notice → β → Prop) : List α → List Notice → List β → Prop
  | nil : Along r [] [] []
  | cons {a : α} {b : β} {as : List α} {bs : List β} {l ls : List Notice} (h : r a l b)
      (hs : Along r as ls bs) : Along r (a :: as) (l ++ ls) (b :: bs)

namespace Yields

variable {p : α → Prop} {q : β → Prop}

theorem pure {a : α} (h : p a) : Yields p (Pure.pure a : Action σ α) := by
  rintro s _ ⟨⟩
  exact h

theorem bind {x : Action σ α} {f : α → Action σ β} (hx : Yields p x)
    (hf : ∀ a, p a → Yields q (f a)) : Yields q (x >>= f) := by
  intro s b h
  obtain ⟨a, ha, hb⟩ := bind_result_eq_ok.mp h
  exact hf a (hx s a ha) _ b hb

/-- What follows an action need only be the same for its results. -/
theorem bind_congr {x : Action σ α} (hx : Yields p x) {f g : α → Action σ β}
    (h : ∀ a, p a → f a = g a) : x >>= f = x >>= g := by
  funext s
  rw [bind_run, bind_run]
  rcases hr : x s with ⟨_ | a, t, log⟩
  · rfl
  · have ha : p a := hx s a (by rw [hr])
    dsimp only
    rw [h a ha]

theorem any (x : Action σ α) : Yields (fun _ => True) x := fun _ _ _ => trivial

theorem lifted (r : Except Error α) : Yields (r = .ok ·) (liftM r : Action σ α) :=
  fun _ _ h => h

theorem liftedFault (r : Except Fault α) : Yields (r = .ok ·) (liftM r : Action σ α) :=
  fun _ _ h => mapError_eq_ok.mp h

theorem fail (e : Error) : Yields p (Action.fail e : Action σ α) := by
  rintro s a ⟨⟩

theorem ite {c : Prop} [Decidable c] {x y : Action σ α} (hx : c → Yields p x)
    (hy : ¬c → Yields p y) : Yields p (if c then x else y) := by
  split
  · exact hx ‹c›
  · exact hy ‹¬c›

theorem mapM {f : α → Action σ β} {l : List α} (hf : ∀ a ∈ l, Yields q (f a)) :
    Yields (fun bs => ∀ b ∈ bs, q b) (l.mapM f) := by
  induction l with
  | nil => exact pure fun _ h => nomatch h
  | cons a l ih =>
    rw [List.mapM_cons]
    refine bind (hf a List.mem_cons_self) fun b hb => ?_
    refine bind (ih fun a' ha => hf a' (List.mem_cons_of_mem _ ha)) fun bs hbs => pure ?_
    exact List.forall_mem_cons.mpr ⟨hb, hbs⟩

end Yields

namespace Follows

variable {r : α → β → Prop} {q : γ → δ → Prop}

theorem pure {a : α} {b : β} (h : r a b) :
    Follows r (Pure.pure a : Action σ α) (Pure.pure b : Action σ β) := by
  rintro s _ ⟨⟩
  exact ⟨b, rfl, rfl, h⟩

theorem bind {x : Action σ α} {y : Action σ β} {f : α → Action σ γ} {g : β → Action σ δ}
    (hx : Follows r x y) (hf : ∀ a b, r a b → Follows q (f a) (g b)) :
    Follows q (x >>= f) (y >>= g) := by
  intro s c h
  obtain ⟨a, ha, hc⟩ := bind_result_eq_ok.mp h
  obtain ⟨b, hb, hstate, hab⟩ := hx s a ha
  rw [← hstate] at hc
  obtain ⟨d, hd, hstate', hcd⟩ := hf a b hab _ c hc
  refine ⟨d, bind_result_eq_ok.mpr ⟨b, hb, hd⟩, ?_, hcd⟩
  rw [bind_state ha, bind_state hb, hstate', hstate]

/-- An action that both begin with. -/
theorem same {p : α → Prop} {x : Action σ α} (hx : Yields p x) {f : α → Action σ γ}
    {g : α → Action σ δ} (hf : ∀ a, p a → Follows q (f a) (g a)) :
    Follows q (x >>= f) (x >>= g) := by
  refine bind (r := fun a b => a = b ∧ p a) (fun s a ha => ⟨a, ha, rfl, rfl, hx s a ha⟩) ?_
  rintro a _ ⟨rfl, ha⟩
  exact hf a ha

/-- What is computed by the first action alone. -/
theorem liftedLeft {e : Except Error α} {f : α → Action σ γ} {y : Action σ δ}
    (hf : ∀ a, e = .ok a → Follows q (f a) y) : Follows q (liftM e >>= f) y := by
  intro s c h
  obtain ⟨a, ha, hc⟩ := bind_result_eq_ok.mp h
  have hstate : ((liftM e >>= f : Action σ γ) s).state = (f a s).state := bind_state ha f
  rw [hstate]
  exact hf a ha s c hc

theorem liftedFaultLeft {e : Except Fault α} {f : α → Action σ γ} {y : Action σ δ}
    (hf : ∀ a, e = .ok a → Follows q (f a) y) : Follows q (liftM e >>= f) y :=
  liftedLeft (e := e.mapError .fault) fun a ha => hf a (mapError_eq_ok.mp ha)

/-- What is computed by each action in its own way. -/
theorem lifted {e : Except Error α} {e' : Except Fault β}
    (h : ∀ a, e = .ok a → ∃ b, e' = .ok b ∧ r a b) :
    Follows r (liftM e : Action σ α) (liftM e' : Action σ β) := by
  intro s a ha
  obtain ⟨b, hb, hab⟩ := h a ha
  exact ⟨b, mapError_eq_ok.mpr hb, rfl, hab⟩

theorem reportLeft {n : Notice} {f : Unit → Action σ γ} {y : Action σ δ}
    (hf : Follows q (f ()) y) : Follows q (report n >>= f) y := hf

theorem fail {e : Error} {y : Action σ β} : Follows r (Action.fail e : Action σ α) y := by
  rintro s a ⟨⟩

theorem ite {c : Prop} [Decidable c] {x x' : Action σ α} {y y' : Action σ β}
    (h : c → Follows r x y) (h' : ¬c → Follows r x' y') :
    Follows r (if c then x else x') (if c then y else y') := by
  split
  · exact h ‹c›
  · exact h' ‹¬c›

theorem mapM {f : α → Action σ γ} {g : α → Action σ δ} {l : List α}
    (hf : ∀ a ∈ l, Follows q (f a) (g a)) : Follows (List.Forall₂ q) (l.mapM f) (l.mapM g) := by
  induction l with
  | nil => exact pure .nil
  | cons a l ih =>
    rw [List.mapM_cons, List.mapM_cons]
    exact bind (hf a List.mem_cons_self) fun c d hcd =>
      bind (ih fun a' ha => hf a' (List.mem_cons_of_mem _ ha)) fun cs ds hcs =>
        pure (.cons hcd hcs)

end Follows

namespace Silent

theorem pure (a : α) : Silent (Pure.pure a : Action σ α) := fun _ => rfl

theorem get : Silent (Action.get : Action σ σ) := fun _ => rfl

theorem modify (f : σ → σ) : Silent (Action.modify f) := fun _ => rfl

theorem lifted (e : Except Error α) : Silent (liftM e : Action σ α) := fun _ => rfl

theorem liftedFault (e : Except Fault α) : Silent (liftM e : Action σ α) := fun _ => rfl

theorem fail (e : Error) : Silent (Action.fail e : Action σ α) := fun _ => rfl

theorem bind {x : Action σ α} {f : α → Action σ β} (hx : Silent x) (hf : ∀ a, Silent (f a)) :
    Silent (x >>= f) := by
  intro s
  have hs := hx s
  rw [bind_run]
  rcases hr : x s with ⟨_ | a, t, log⟩
  · rwa [hr] at hs
  · rw [hr] at hs
    cases hs
    exact hf a t

end Silent

namespace Computes

theorem pure (a : α) : Computes (Pure.pure a : Action σ α) := ⟨.ok a, fun _ => rfl⟩

theorem lifted (e : Except Error α) : Computes (liftM e : Action σ α) := ⟨e, fun _ => rfl⟩

theorem liftedFault (e : Except Fault α) : Computes (liftM e : Action σ α) :=
  ⟨e.mapError .fault, fun _ => rfl⟩

theorem fail (e : Error) : Computes (Action.fail e : Action σ α) := ⟨.error e, fun _ => rfl⟩

theorem bind {x : Action σ α} {f : α → Action σ β} (hx : Computes x) (hf : ∀ a, Computes (f a)) :
    Computes (x >>= f) := by
  obtain ⟨r, hr⟩ := hx
  cases r with
  | error e => exact ⟨.error e, fun s => bind_run_error (hr s) f⟩
  | ok a =>
    obtain ⟨r', hr'⟩ := hf a
    refine ⟨r', fun s => ?_⟩
    rw [bind_run_ok (hr s), hr']
    rfl

theorem ite {c : Prop} [Decidable c] {x y : Action σ α} (hx : Computes x) (hy : Computes y) :
    Computes (if c then x else y) := by
  split
  · exact hx
  · exact hy

end Computes

namespace Reports

variable {p : α → List Notice → Prop} {q : γ → List Notice → Prop}

theorem pure {a : α} (h : p a []) : Reports p (Pure.pure a : Action σ α) := by
  refine fun s => ⟨.pure a, ?_⟩
  rintro _ ⟨⟩
  exact h

theorem bind {x : Action σ α} {f : α → Action σ γ} (hx : Reports p x)
    (hf : ∀ a l, p a l → Reports (fun c m => q c (l ++ m)) (f a)) : Reports q (x >>= f) := by
  intro s
  obtain ⟨hrests, hp⟩ := hx s
  have hstate : (x s).state = s := hrests
  refine ⟨hrests.bind fun a ha => (hf a _ (hp a ha) s).1, fun c h => ?_⟩
  obtain ⟨a, ha, hc⟩ := bind_result_eq_ok.mp h
  rw [hstate] at hc
  rw [bind_log ha, hstate]
  exact (hf a _ (hp a ha) s).2 c hc

theorem liftedFault (e : Except Fault α) :
    Reports (fun a l => e = .ok a ∧ l = []) (liftM e : Action σ α) :=
  fun _ => ⟨.liftedFault e, fun _ h => ⟨mapError_eq_ok.mp h, rfl⟩⟩

theorem lifted (e : Except Error α) :
    Reports (fun a l => e = .ok a ∧ l = []) (liftM e : Action σ α) :=
  fun _ => ⟨.lifted e, fun _ h => ⟨h, rfl⟩⟩

theorem report (n : Notice) : Reports (fun _ l => l = [n]) (Action.report n : Action σ Unit) :=
  fun _ => ⟨.report n, fun _ _ => rfl⟩

theorem fail (e : Error) : Reports p (Action.fail e : Action σ α) := by
  refine fun s => ⟨.fail e, ?_⟩
  rintro a ⟨⟩

theorem ite {c : Prop} [Decidable c] {x y : Action σ α} (hx : c → Reports p x)
    (hy : ¬c → Reports p y) : Reports p (if c then x else y) := by
  split
  · exact hx ‹c›
  · exact hy ‹¬c›

end Reports

namespace Mirrored

variable {r : α → List Notice → β → Prop} {q : γ → List Notice → δ → Prop}

theorem pure {a : α} {b : β} (h : r a [] b) :
    Mirrored r (Pure.pure a : Action σ α) (Pure.pure b : Action σ β) := by
  rintro s _ ⟨⟩
  exact ⟨b, rfl, rfl, h⟩

theorem bind {x : Action σ α} {y : Action σ β} {f : α → Action σ γ} {g : β → Action σ δ}
    (hx : Mirrored r x y)
    (hf : ∀ a l b, r a l b → Mirrored (fun c m d => q c (l ++ m) d) (f a) (g b)) :
    Mirrored q (x >>= f) (y >>= g) := by
  intro s c h
  obtain ⟨a, ha, hc⟩ := bind_result_eq_ok.mp h
  obtain ⟨b, hb, hstate, hr⟩ := hx s a ha
  obtain ⟨d, hd, hstate', hq⟩ := hf a _ b hr _ c hc
  rw [← hstate] at hd hstate'
  refine ⟨d, bind_result_eq_ok.mpr ⟨b, hb, hd⟩, ?_, ?_⟩
  · rw [bind_state ha, bind_state hb, hstate', hstate]
  · rw [bind_log ha]
    exact hq

/-- What the first action alone begins with. -/
theorem left {p : α → List Notice → Prop} {x : Action σ α} (hx : Reports p x)
    {f : α → Action σ γ} {y : Action σ δ}
    (hf : ∀ a l, p a l → Mirrored (fun c m d => q c (l ++ m) d) (f a) y) :
    Mirrored q (x >>= f) y := by
  intro s c h
  obtain ⟨a, ha, hc⟩ := bind_result_eq_ok.mp h
  obtain ⟨hrests, hp⟩ := hx s
  have hs : (x s).state = s := hrests
  obtain ⟨d, hd, hstate, hq⟩ := hf a _ (hp a ha) _ c hc
  rw [hs] at hd hstate
  refine ⟨d, hd, ?_, ?_⟩
  · rw [bind_state ha, hstate, hs]
  · rw [bind_log ha]
    exact hq

theorem liftedLeft {e : Except Error α} {f : α → Action σ γ} {y : Action σ δ}
    (hf : ∀ a, e = .ok a → Mirrored q (f a) y) : Mirrored q (liftM e >>= f) y := by
  refine left (.lifted e) ?_
  rintro a _ ⟨ha, rfl⟩
  exact hf a ha

theorem liftedFaultLeft {e : Except Fault α} {f : α → Action σ γ} {y : Action σ δ}
    (hf : ∀ a, e = .ok a → Mirrored q (f a) y) : Mirrored q (liftM e >>= f) y := by
  refine left (.liftedFault e) ?_
  rintro a _ ⟨ha, rfl⟩
  exact hf a ha

/-- What the second action alone begins with. -/
theorem liftedFaultRight {e : Except Fault β} {b : β} (he : e = .ok b) {x : Action σ γ}
    {g : β → Action σ δ} (hg : Mirrored q x (g b)) : Mirrored q x (liftM e >>= g) := by
  rw [he]
  exact hg

/-- An action without reports that both begin with. -/
theorem same {x : Action σ α} (hx : Silent x) {f : α → Action σ γ} {g : α → Action σ δ}
    (hf : ∀ a, Mirrored q (f a) (g a)) : Mirrored q (x >>= f) (x >>= g) := by
  refine bind (r := fun a l b => a = b ∧ l = []) (fun s a ha => ⟨a, ha, rfl, rfl, hx s⟩) ?_
  rintro a _ _ ⟨rfl, rfl⟩
  exact hf a

theorem fail {e : Error} {y : Action σ β} : Mirrored r (Action.fail e : Action σ α) y := by
  rintro s a ⟨⟩

/-- What the result of the second action is made into. -/
theorem mapRight {x : Action σ α} {y : Action σ β} {q : α → List Notice → δ → Prop}
    (hx : Mirrored r x y) {g : β → δ} (hg : ∀ a l b, r a l b → q a l (g b)) :
    Mirrored q x (y >>= fun b => Pure.pure (g b)) := by
  intro s a ha
  obtain ⟨b, hb, hstate, hr⟩ := hx s a ha
  refine ⟨g b, bind_result_eq_ok.mpr ⟨b, hb, rfl⟩, ?_, hg a _ b hr⟩
  rw [bind_state hb]
  exact hstate

theorem mapM {f : α → Action σ γ} {g : α → Action σ δ} {l : List α}
    (hf : ∀ a ∈ l, Mirrored q (f a) (g a)) : Mirrored (Along q) (l.mapM f) (l.mapM g) := by
  induction l with
  | nil => exact pure .nil
  | cons a l ih =>
    rw [List.mapM_cons, List.mapM_cons]
    refine bind (hf a List.mem_cons_self) fun c m d h => ?_
    refine bind (ih fun a' ha => hf a' (List.mem_cons_of_mem _ ha)) fun cs ms ds hs => pure ?_
    rw [List.append_nil]
    exact .cons h hs

end Mirrored

end RecordSql.Action
