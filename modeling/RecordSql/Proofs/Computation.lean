import Mathlib.Data.List.Forall2
import RecordSql.Action

/-! Computations that can fail, opened one step at a time: what they are when a step succeeds or
fails, and what their success or failure says of every step. -/

namespace RecordSql

section Except

variable {ε ε' α β γ : Type} {e : ε}

@[simp] theorem ok_bind (a : α) (f : α → Except ε β) : (Except.ok a >>= f) = f a := rfl

@[simp] theorem error_bind (e : ε) (f : α → Except ε β) : (Except.error e >>= f) = .error e := rfl

@[simp] theorem map_ok (a : α) (f : α → β) : (Except.ok a : Except ε α).map f = .ok (f a) := rfl

@[simp] theorem map_error (e : ε) (f : α → β) : (Except.error e).map f = .error e := rfl

theorem bind_eq_ok {x : Except ε α} {f : α → Except ε β} {b : β} :
    (x >>= f) = .ok b ↔ ∃ a, x = .ok a ∧ f a = .ok b := by
  cases x <;> simp

theorem bind_eq_error {x : Except ε α} {f : α → Except ε β} :
    (x >>= f) = .error e ↔ x = .error e ∨ ∃ a, x = .ok a ∧ f a = .error e := by
  cases x <;> simp

/-- What follows a result has to be the same only for the value that it is. -/
theorem bind_congr_ok {x : Except ε α} {f g : α → Except ε β} (h : ∀ a, x = .ok a → f a = g a) :
    x >>= f = x >>= g := by
  cases x with
  | error _ => rfl
  | ok a => exact h a rfl

theorem map_eq_ok {x : Except ε α} {f : α → β} {b : β} :
    x.map f = .ok b ↔ ∃ a, x = .ok a ∧ f a = b := by
  cases x <;> simp

theorem map_eq_error {x : Except ε α} {f : α → β} : x.map f = .error e ↔ x = .error e := by
  cases x <;> simp

theorem mapError_eq_ok {x : Except ε α} {f : ε → ε'} {a : α} :
    x.mapError f = .ok a ↔ x = .ok a := by
  cases x <;> simp [Except.mapError]

theorem mapError_eq_error {x : Except ε α} {f : ε → ε'} {e' : ε'} :
    x.mapError f = .error e' ↔ ∃ e, x = .error e ∧ f e = e' := by
  cases x <;> simp [Except.mapError]

theorem elim_eq_error {o : Option α} {e' : ε} (h : o.elim (.error e) Except.ok = .error e') :
    e' = e := by
  cases o with
  | none => exact (Except.error.inj h).symm
  | some _ => cases h

theorem mapM_eq_ok {f : α → Except ε β} {l : List α} {bs : List β} :
    l.mapM f = .ok bs ↔ List.Forall₂ (fun a b => f a = .ok b) l bs := by
  induction l generalizing bs with
  | nil => simp [pure, Except.pure, eq_comm]
  | cons a l ih =>
    rw [List.mapM_cons, bind_eq_ok, List.forall₂_cons_left_iff]
    refine exists_congr fun b => ?_
    rw [bind_eq_ok]
    simp only [ih, pure, Except.pure, Except.ok.injEq]
    constructor
    · rintro ⟨hb, cs, hcs, rfl⟩
      exact ⟨cs, hb, hcs, rfl⟩
    · rintro ⟨cs, hb, hcs, rfl⟩
      exact ⟨hb, cs, hcs, rfl⟩

/-- To relate a list to another one is to relate each of its items to something. -/
theorem exists_forall₂_iff {r : α → β → Prop} {l : List α} :
    (∃ bs, List.Forall₂ r l bs) ↔ ∀ a ∈ l, ∃ b, r a b := by
  induction l with
  | nil => simp
  | cons a l ih =>
    simp only [List.forall₂_cons_left_iff, List.forall_mem_cons, ← ih]
    constructor
    · rintro ⟨_, b, bs, hb, hbs, rfl⟩
      exact ⟨⟨b, hb⟩, bs, hbs⟩
    · rintro ⟨⟨b, hb⟩, bs, hbs⟩
      exact ⟨b :: bs, b, bs, hb, hbs, rfl⟩

/-- A loop succeeds if and only if it does so at each of its items. -/
theorem exists_mapM_eq_ok {f : α → Except ε β} {l : List α} :
    (∃ bs, l.mapM f = .ok bs) ↔ ∀ a ∈ l, ∃ b, f a = .ok b := by
  simp only [mapM_eq_ok, exists_forall₂_iff]

theorem exists_of_mem_forall₂ {r : α → β → Prop} {l : List α} {bs : List β}
    (h : List.Forall₂ r l bs) {b : β} (hb : b ∈ bs) : ∃ a ∈ l, r a b := by
  induction h with
  | nil => cases hb
  | @cons a _ l _ hab _ ih =>
    rcases List.mem_cons.mp hb with rfl | hb
    · exact ⟨a, List.mem_cons_self, hab⟩
    · obtain ⟨a', ha', hab'⟩ := ih hb
      exact ⟨a', List.mem_cons_of_mem a ha', hab'⟩

theorem exists_of_mem_mapM {f : α → Except ε β} {l : List α} {bs : List β}
    (h : l.mapM f = .ok bs) {b : β} (hb : b ∈ bs) : ∃ a ∈ l, f a = .ok b :=
  exists_of_mem_forall₂ (mapM_eq_ok.mp h) hb

/-- A loop fails as the first of its items at which it does so. -/
theorem mapM_eq_error {f : α → Except ε β} {l : List α} :
    l.mapM f = .error e ↔ ∃ before a after, l = before ++ a :: after ∧
      (∀ a' ∈ before, ∃ b, f a' = .ok b) ∧ f a = .error e := by
  constructor
  · intro h
    induction l with
    | nil => cases h
    | cons a l ih =>
      rw [List.mapM_cons] at h
      rcases bind_eq_error.mp h with h | ⟨b, hb, h⟩
      · exact ⟨[], a, l, rfl, by simp, h⟩
      · rcases bind_eq_error.mp h with h | ⟨bs, -, h⟩
        · obtain ⟨before, a', after, rfl, hbefore, ha'⟩ := ih h
          exact ⟨a :: before, a', after, rfl, List.forall_mem_cons.mpr ⟨⟨b, hb⟩, hbefore⟩, ha'⟩
        · cases h
  · rintro ⟨before, a, after, rfl, hbefore, ha⟩
    obtain ⟨bs, hbs⟩ := exists_mapM_eq_ok.mpr hbefore
    rw [List.mapM_append, hbs, List.mapM_cons, ha]
    rfl

theorem exists_of_mapM_error {f : α → Except ε β} {l : List α} (h : l.mapM f = .error e) :
    ∃ a ∈ l, f a = .error e := by
  obtain ⟨before, a, after, rfl, -, ha⟩ := mapM_eq_error.mp h
  exact ⟨a, by simp, ha⟩

/-- Items next to what is computed for them. -/
theorem exists_mapM_pairs {f : α → Except ε β} {r : α → β → Prop} {l : List α}
    (h : ∀ a ∈ l, ∃ b, f a = .ok b ∧ r a b) :
    ∃ pairs, l.mapM (fun a => (f a).map (a, ·)) = .ok pairs ∧ pairs.map (·.1) = l ∧
      List.Forall₂ r l (pairs.map (·.2)) := by
  induction l with
  | nil => exact ⟨[], rfl, rfl, .nil⟩
  | cons a l ih =>
    obtain ⟨⟨b, hb, hr⟩, hl⟩ := List.forall_mem_cons.mp h
    obtain ⟨pairs, hpairs, hfirst, hsecond⟩ := ih hl
    refine ⟨(a, b) :: pairs, ?_, by rw [List.map_cons, hfirst], .cons hr hsecond⟩
    rw [List.mapM_cons, hb, map_ok, ok_bind, hpairs]
    rfl

/-- Where one of two computations succeeds for each item, so does the other. -/
theorem mapM_related {f : α → Except ε β} {g : α → Except ε' γ} {r : β → γ → Prop} {l : List α}
    {bs : List β} (h : ∀ a ∈ l, ∀ b, f a = .ok b → ∃ c, g a = .ok c ∧ r b c)
    (hf : l.mapM f = .ok bs) : ∃ cs, l.mapM g = .ok cs ∧ List.Forall₂ r bs cs := by
  induction l generalizing bs with
  | nil =>
    cases hf
    exact ⟨[], rfl, .nil⟩
  | cons a l ih =>
    rw [List.mapM_cons] at hf
    obtain ⟨b, hb, hf⟩ := bind_eq_ok.mp hf
    obtain ⟨bs, hbs, hf⟩ := bind_eq_ok.mp hf
    cases hf
    obtain ⟨c, hc, hbc⟩ := h a List.mem_cons_self b hb
    obtain ⟨cs, hcs, hrel⟩ := ih (fun a' ha => h a' (List.mem_cons_of_mem _ ha)) hbs
    exact ⟨c :: cs, by simp [List.mapM_cons, hc, hcs, pure, Except.pure], .cons hbc hrel⟩

/-- Two computations that agree on what they make of each item agree on all items. -/
theorem mapM_agree {f : α → Except ε β} {g : α → Except ε' γ} {δ : Type} {p : β → δ} {q : γ → δ}
    {l : List α} {bs : List β} {cs : List γ}
    (h : ∀ a ∈ l, ∀ b c, f a = .ok b → g a = .ok c → p b = q c) (hf : l.mapM f = .ok bs)
    (hg : l.mapM g = .ok cs) : bs.map p = cs.map q := by
  induction l generalizing bs cs with
  | nil =>
    cases hf
    cases hg
    rfl
  | cons a l ih =>
    rw [List.mapM_cons] at hf hg
    obtain ⟨b, hb, hf⟩ := bind_eq_ok.mp hf
    obtain ⟨bs, hbs, hf⟩ := bind_eq_ok.mp hf
    obtain ⟨c, hc, hg⟩ := bind_eq_ok.mp hg
    obtain ⟨cs, hcs, hg⟩ := bind_eq_ok.mp hg
    cases hf
    cases hg
    rw [List.map_cons, List.map_cons, h a List.mem_cons_self b c hb hc,
      ih (fun a' ha => h a' (List.mem_cons_of_mem a ha)) hbs hcs]

theorem mapM_congr {m : Type → Type} [Monad m] [LawfulMonad m] {α β : Type} {f g : α → m β}
    {l : List α} (h : ∀ a ∈ l, f a = g a) : l.mapM f = l.mapM g := by
  induction l with
  | nil => rfl
  | cons a l ih =>
    rw [List.mapM_cons, List.mapM_cons, h a List.mem_cons_self,
      ih fun a' ha => h a' (List.mem_cons_of_mem a ha)]

/-- Items that are passed over may as well be left out beforehand. -/
theorem mapM_filterMap (p : α → Option β) (f : β → Except ε γ) (l : List α) :
    (l.mapM fun a => (p a).elim (.ok none) fun b => (f b).map some).map (List.filterMap id) =
      (l.filterMap p).mapM f := by
  induction l with
  | nil => rfl
  | cons a l ih =>
    rw [List.mapM_cons, List.filterMap_cons]
    cases p a with
    | none =>
      rw [← ih]
      generalize (l.mapM _ : Except ε (List (Option γ))) = r
      cases r <;> rfl
    | some b =>
      rw [List.mapM_cons, Option.elim_some, ← ih]
      generalize (l.mapM _ : Except ε (List (Option γ))) = r
      cases f b <;> cases r <;> rfl

theorem mem_of_mem_filterAuxM {p : α → Except ε Bool} {l acc l' : List α}
    (h : l.filterAuxM p acc = .ok l') {a : α} (ha : a ∈ l') : a ∈ l ∨ a ∈ acc := by
  induction l generalizing acc with
  | nil =>
    cases h
    exact .inr ha
  | cons b l ih =>
    obtain ⟨kept, -, h⟩ := bind_eq_ok.mp h
    rcases ih h with hl | hacc
    · exact .inl (List.mem_cons_of_mem b hl)
    · cases kept with
      | false => exact .inr hacc
      | true =>
        rcases List.mem_cons.mp hacc with rfl | hacc
        · exact .inl List.mem_cons_self
        · exact .inr hacc

theorem mem_of_mem_filterM {p : α → Except ε Bool} {l l' : List α} (h : l.filterM p = .ok l')
    {a : α} (ha : a ∈ l') : a ∈ l := by
  obtain ⟨r, hr, h⟩ := bind_eq_ok.mp h
  cases h
  exact (mem_of_mem_filterAuxM hr (List.mem_reverse.mp ha)).resolve_right List.not_mem_nil

theorem filterAuxM_eq_ok {p : α → Except ε Bool} {q : α → Bool}
    (hp : ∀ a b, p a = .ok b → b = q a) {l acc l' : List α} (h : l.filterAuxM p acc = .ok l') :
    l' = (l.filter q).reverse ++ acc := by
  induction l generalizing acc with
  | nil =>
    cases h
    rfl
  | cons a l ih =>
    obtain ⟨kept, hk, h⟩ := bind_eq_ok.mp h
    obtain rfl := hp a kept hk
    rw [ih h]
    cases ha : q a <;> simp [ha]

/-- A filter whose every test tells what a pure one does. -/
theorem filterM_eq_ok {p : α → Except ε Bool} {q : α → Bool} (hp : ∀ a b, p a = .ok b → b = q a)
    {l l' : List α} (h : l.filterM p = .ok l') : l' = l.filter q := by
  obtain ⟨r, hr, h⟩ := bind_eq_ok.mp h
  cases h
  rw [filterAuxM_eq_ok hp hr, List.append_nil, List.reverse_reverse]

theorem exists_of_filterAuxM_error {p : α → Except ε Bool} {l acc : List α}
    (h : l.filterAuxM p acc = .error e) : ∃ a ∈ l, p a = .error e := by
  induction l generalizing acc with
  | nil => cases h
  | cons a l ih =>
    rcases bind_eq_error.mp h with h | ⟨b, -, h⟩
    · exact ⟨a, List.mem_cons_self, h⟩
    · obtain ⟨a', ha', h⟩ := ih h
      exact ⟨a', List.mem_cons_of_mem a ha', h⟩

theorem exists_of_filterM_error {p : α → Except ε Bool} {l : List α}
    (h : l.filterM p = .error e) : ∃ a ∈ l, p a = .error e := by
  rcases bind_eq_error.mp h with h | ⟨r, -, h⟩
  · exact exists_of_filterAuxM_error h
  · cases h

end Except

end RecordSql
