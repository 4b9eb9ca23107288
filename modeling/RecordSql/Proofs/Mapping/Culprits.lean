import RecordSql.Proofs.Landing
import RecordSql.Proofs.Mapping.Storage

/-! Culprits: the values that transformers fail for. Loops that hand values to transformers, item
after item, blame the first one that fails, and its fault never leaves them but in an error that
names the column. -/

namespace RecordSql

open RecordSql.Action

/-- An item of a list with a property that none before it has. -/
def First {α : Type} (p : α → Prop) (l : List α) (a : α) : Prop :=
  ∃ before after, l = before ++ a :: after ∧ (∀ b ∈ before, ¬p b) ∧ p a

theorem First.holds {α : Type} {p : α → Prop} {l : List α} {a : α} (h : First p l a) : p a := by
  obtain ⟨_, _, _, _, ha⟩ := h
  exact ha

theorem exists_first_iff {α : Type} {p : α → Prop} {l : List α} :
    (∃ a, First p l a) ↔ ∃ a ∈ l, p a := by
  constructor
  · rintro ⟨a, before, after, rfl, -, ha⟩
    exact ⟨a, by simp, ha⟩
  · induction l with
    | nil => simp
    | cons b l ih =>
      by_cases hb : p b
      · exact fun _ => ⟨b, [], l, rfl, by simp, hb⟩
      · rintro ⟨a, ha, hp⟩
        have hne : a ≠ b := by
          rintro rfl
          exact hb hp
        obtain ⟨c, before, after, rfl, hbefore, hc⟩ :=
          ih ⟨a, (List.mem_cons.mp ha).resolve_left hne, hp⟩
        exact ⟨c, b :: before, after, rfl, List.forall_mem_cons.mpr ⟨hb, hbefore⟩, hc⟩

/-! ### Cells -/

/-- The error of a transformer reaches the caller if its fault has a text, and else gives way to the
fault of that. -/
theorem Error.settled_transformation_iff {objects : Objects} {name : String} {d : Direction}
    {cause : Fault} : (Error.transformation name d cause).settled objects =
      .transformation name d cause ↔ ∃ text, cause.message objects.shown = .ok text := by
  rw [settled, message]
  cases cause.message objects.shown <;> simp [pure, Except.pure]

namespace Column

/-- How the transformer of a column fails for a value. Null is never handed to it to be stored. -/
inductive Fails (objects : Objects) (c : Column) (v : Value) : Direction → Fault → Prop
  | store {t : Transformer} {cause : Fault} (ht : c.transformer = some t) (hv : v ≠ .null)
    (h : t.store objects v = .error cause) : Fails objects c v .store cause
  | load {t : Transformer} {cause : Fault} (ht : c.transformer = some t)
    (h : t.load objects v = .error cause) : Fails objects c v .load cause

/-- What becomes of a value in one direction. -/
def converted (objects : Objects) (d : Direction) (c : Column) (v : Value) : Except Error Value :=
  match d with
  | .store => stored objects (some c) v
  | .load => c.loaded objects v

variable {objects : Objects} {c : Column} {v : Value} {d : Direction} {e : Error} {cause : Fault}

/-- All that a conversion can end in is the fault of the transformer, in the name of the column. -/
theorem converted_eq_error : converted objects d c v = .error e ↔
    ∃ cause, c.Fails objects v d cause ∧ e = .transformation c.name d cause := by
  cases d with
  | store =>
    change (c.toStored objects v).mapError _ = .error e ↔ _
    rw [mapError_eq_error]
    refine exists_congr fun cause => and_congr ⟨fun h => ?_, fun h => ?_⟩ eq_comm
    · have hv : v ≠ .null := by
        rintro rfl
        cases h
      rw [toStored_of_ne hv] at h
      cases ht : c.transformer with
      | none =>
        rw [ht] at h
        cases h
      | some t =>
        rw [ht] at h
        exact .store ht hv h
    · obtain ⟨ht, hv, h⟩ := h
      rw [toStored_of_ne hv, ht]
      exact h
  | load =>
    change c.loaded objects v = .error e ↔ _
    rw [loaded]
    constructor
    · intro h
      cases ht : c.transformer with
      | none =>
        rw [ht] at h
        cases h
      | some t =>
        rw [ht] at h
        obtain ⟨cause, hcause, rfl⟩ := mapError_eq_error.mp h
        exact ⟨cause, .load ht hcause, rfl⟩
    · rintro ⟨cause, ⟨⟩, rfl⟩
      rename_i t ht h
      rw [ht]
      exact mapError_eq_error.mpr ⟨cause, h, rfl⟩

/-- Null is stored as null, and transformers that differ for null alone store the same. -/
theorem stored_null : stored objects (some c) .null = .ok .null := rfl

theorem stored_congr {t t' : Transformer}
    (h : ∀ v, v ≠ .null → t.store objects v = t'.store objects v) (v : Value) :
    stored objects (some { c with transformer := some t }) v =
      stored objects (some { c with transformer := some t' }) v := by
  by_cases hv : v = .null
  · subst hv
    rfl
  · rw [stored, stored, toStored_of_ne hv, toStored_of_ne hv]
    exact congrArg (Except.mapError _) (h v hv)

end Column

/-- An error that blames the first of some cells whose transformer fails. -/
def Blames (objects : Objects) (d : Direction) (cells : List (Column × Value)) (e : Error) : Prop :=
  ∃ cell cause, First (fun x => ∃ f, x.1.Fails objects x.2 d f) cells cell ∧
    cell.1.Fails objects cell.2 d cause ∧ e = .transformation cell.1.name d cause

section Blame

variable {objects : Objects} {d : Direction} {cells rest : List (Column × Value)} {e : Error}

/-- Cells that are converted one after the other. -/
theorem mapM_converted_eq_error :
    (cells.mapM fun x => Column.converted objects d x.1 x.2) = .error e ↔
      Blames objects d cells e := by
  have hok (x : Column × Value) : (∃ v, Column.converted objects d x.1 x.2 = .ok v) ↔
      ¬∃ f, x.1.Fails objects x.2 d f := by
    cases h : Column.converted objects d x.1 x.2 with
    | ok v =>
      simp only [Except.ok.injEq, exists_eq', true_iff]
      rintro ⟨f, hf⟩
      cases h.symm.trans (Column.converted_eq_error.mpr ⟨f, hf, rfl⟩)
    | error e =>
      obtain ⟨f, hf, -⟩ := Column.converted_eq_error.mp h
      simp only [reduceCtorEq, exists_false, false_iff, not_not]
      exact ⟨f, hf⟩
  rw [mapM_eq_error]
  constructor
  · rintro ⟨before, x, after, rfl, hbefore, hx⟩
    obtain ⟨cause, hcause, rfl⟩ := Column.converted_eq_error.mp hx
    exact ⟨x, cause, ⟨before, after, rfl, fun b hb => (hok b).mp (hbefore b hb), cause, hcause⟩,
      hcause, rfl⟩
  · rintro ⟨x, cause, ⟨before, after, rfl, hbefore, -⟩, hcause, rfl⟩
    exact ⟨before, x, after, rfl, fun b hb => (hok b).mpr (hbefore b hb),
      Column.converted_eq_error.mpr ⟨cause, hcause, rfl⟩⟩

/-- Some cell is blamed if and only if the transformer of one fails. -/
theorem exists_blames_iff : (∃ e, Blames objects d cells e) ↔
    ∃ x ∈ cells, ∃ cause, x.1.Fails objects x.2 d cause := by
  rw [← exists_first_iff]
  constructor
  · rintro ⟨e, x, cause, hx, -⟩
    exact ⟨x, hx⟩
  · rintro ⟨x, hx⟩
    obtain ⟨cause, hcause⟩ := hx.holds
    exact ⟨_, x, cause, hx, hcause, rfl⟩

theorem not_blames_nil : ¬Blames objects d [] e := by
  rintro ⟨x, cause, ⟨before, after, h, -⟩, -⟩
  cases before <;> cases h

/-- Nothing is blamed by what ends normally without any cells. -/
theorem ok_eq_error_iff {α : Type} {a : α} :
    (.ok a : Except Error α) = .error e ↔ Blames objects d [] e := by
  simp [not_blames_nil]

theorem blames_singleton {c : Column} {v : Value} :
    Blames objects d [(c, v)] e ↔ Column.converted objects d c v = .error e := by
  rw [← mapM_converted_eq_error, List.mapM_cons, List.mapM_nil]
  cases Column.converted objects d c v <;> simp [pure, Except.pure]

/-- Of cells put together the first ones are to blame, or else the others. -/
theorem blames_append : Blames objects d (cells ++ rest) e ↔
    Blames objects d cells e ∨ (∀ e, ¬Blames objects d cells e) ∧ Blames objects d rest e := by
  simp only [← mapM_converted_eq_error, List.mapM_append]
  cases cells.mapM fun x => Column.converted objects d x.1 x.2 with
  | error e' => simp
  | ok vs =>
    cases rest.mapM fun x => Column.converted objects d x.1 x.2 with
    | error e' => simp
    | ok ws => simp [pure, Except.pure]

end Blame

/-! ### Errors of transformers -/

/-- A result that is an error at most of a transformer. -/
def FailsByTransformers {α : Type} (r : Except Error α) : Prop :=
  ∀ e, r = .error e → e.family = .transformation

/-- An action whose errors are not those of transformers. -/
def Action.Untransformed {σ α : Type} (x : Action σ α) : Prop :=
  Lands (fun _ => True) (·.family ≠ .transformation) (fun _ _ => True) x

namespace Action

variable {σ α β : Type}

theorem untransformed_liftM (r : Except Fault α) : (liftM r : Action σ α).Untransformed := by
  refine .ofExcept (fun e he => ?_) fun _ _ _ _ => trivial
  obtain ⟨f, -, rfl⟩ := mapError_eq_error.mp he
  exact nofun

/-- Before transformers are at work, an action ends normally if only they can fail. -/
theorem Untransformed.exists_ok {x : Action σ α} (hx : x.Untransformed) {f : α → Action σ β} {s : σ}
    (h : FailsByTransformers ((x >>= f) s).result) :
    ∃ a, (x s).result = .ok a ∧ FailsByTransformers (f a (x s).state).result := by
  cases hr : (x s).result with
  | error e => exact absurd (h e (by rw [bind_run_of_error hr])) ((hx s trivial).error e hr)
  | ok a => exact ⟨a, rfl, fun e he => h e (by rw [bind_run_of_ok hr, he])⟩

theorem exists_ok_of_liftM {r : Except Fault α} {f : α → Action σ β} {s : σ}
    (h : FailsByTransformers (((liftM r : Action σ α) >>= f) s).result) :
    ∃ a, r = .ok a ∧ FailsByTransformers (f a s).result := by
  obtain ⟨a, ha, h⟩ := (untransformed_liftM r).exists_ok h
  exact ⟨a, mapError_eq_ok.mp ha, h⟩

end Action

/-! ### Loops -/

section Loops

variable {σ α β γ : Type}

/-- What a loop hands to transformers: the cells of its items, each of which may change the state.
-/
inductive HandsEach (hands : σ → α → List (Column × Value) → σ → Prop) :
    σ → List α → List (Column × Value) → σ → Prop
  | nil (s : σ) : HandsEach hands s [] [] s
  | cons {s t u : σ} {a : α} {l : List α} {cells rest : List (Column × Value)}
    (h : hands s a cells t) (hs : HandsEach hands t l rest u) :
    HandsEach hands s (a :: l) (cells ++ rest) u

/-- What a loop hands to transformers at some of its first items. -/
def HandsFirst (hands : σ → α → List (Column × Value) → σ → Prop) (s : σ) (l : List α)
    (cells : List (Column × Value)) : Prop :=
  ∃ before after t, l = before ++ after ∧ HandsEach hands s before cells t

/-- An action that is refused for an item before it hands anything to a transformer, or else hands
some cells to transformers and fails only with them. -/
structure HandsOver (objects : Objects) (d : Direction)
    (hands : σ → α → List (Column × Value) → σ → Prop) (f : α → Action σ β) : Prop where
  error_iff : ∀ {s a cells t}, hands s a cells t →
    ∀ e, (f a s).result = .error e ↔ Blames objects d cells e
  state : ∀ {s a cells t}, hands s a cells t → ∀ b, (f a s).result = .ok b → (f a s).state = t
  hands : ∀ {s a}, FailsByTransformers (f a s).result → ∃ cells t, hands s a cells t

/-- A result blames culprits if it is the error of a transformer just where, among some cells that
are handed over until then, one is to blame for it, and any error at all just where one is to blame,
once everything is handed over. -/
structure BlamesCulprits (objects : Objects) (d : Direction)
    (partly wholly : List (Column × Value) → Prop) (result : Except Error β) : Prop where
  transformation : ∀ e, e.family = .transformation →
    (result = .error e ↔ ∃ cells, partly cells ∧ Blames objects d cells e)
  any : ∀ cells, wholly cells → ∀ e, result = .error e ↔ Blames objects d cells e

variable {objects : Objects} {d : Direction} {hands : σ → α → List (Column × Value) → σ → Prop}
  {f : α → Action σ β} {s t : σ} {l : List α} {cells : List (Column × Value)} {e : Error}

/-- Only the errors of a result matter. -/
theorem BlamesCulprits.congr {partly wholly : List (Column × Value) → Prop}
    {result : Except Error β} {result' : Except Error γ}
    (h : BlamesCulprits objects d partly wholly result)
    (heq : ∀ e, result' = .error e ↔ result = .error e) :
    BlamesCulprits objects d partly wholly result' where
  transformation e he := (heq e).trans (h.transformation e he)
  any cells hcells e := (heq e).trans (h.any cells hcells e)

namespace HandsOver

/-- An item that ends normally is refused nothing, so that its cells are handed over. -/
theorem hands_of_ok (hf : HandsOver objects d hands f) {a : α} {b : β}
    (hb : (f a s).result = .ok b) : ∃ cells, hands s a cells (f a s).state := by
  obtain ⟨cells, t, ha⟩ := hf.hands fun e he => nomatch hb.symm.trans he
  rw [hf.state ha b hb]
  exact ⟨cells, ha⟩

/-- Where all items are handed over, the first culprit among all cells is blamed. -/
theorem mapM_eq_error_iff (hf : HandsOver objects d hands f) (h : HandsEach hands s l cells t) :
    (l.mapM f s).result = .error e ↔ Blames objects d cells e := by
  induction h with
  | nil s => exact ok_eq_error_iff
  | @cons s t u a l cells rest ha _ ih =>
    have hrest : ((f a >>= fun b => do return b :: (← l.mapM f)) s).result = .error e ↔
        (f a s).result = .error e ∨
          ∃ b, (f a s).result = .ok b ∧ (l.mapM f (f a s).state).result = .error e := by
      rw [bind_result_eq_error]
      refine or_congr Iff.rfl (exists_congr fun b => and_congr_right fun _ => ?_)
      rw [bind_result_eq_error]
      simp
    rw [List.mapM_cons, hrest, blames_append, hf.error_iff ha]
    refine or_congr Iff.rfl ?_
    simp only [← hf.error_iff ha, ← ih]
    cases hb : (f a s).result with
    | error e' => simp
    | ok b => simp [hf.state ha b hb]

/-- An error of a transformer is that of the first culprit among the items up to its own. -/
theorem handsFirst_of_mapM (hf : HandsOver objects d hands f)
    (h : (l.mapM f s).result = .error e) (he : e.family = .transformation) :
    ∃ cells, HandsFirst hands s l cells ∧ Blames objects d cells e := by
  induction l generalizing s with
  | nil => cases h
  | cons a l ih =>
    rw [List.mapM_cons] at h
    rcases bind_result_eq_error.mp h with h | ⟨b, hb, h⟩
    · have hfails : FailsByTransformers (f a s).result := by
        intro e' he'
        cases h.symm.trans he'
        exact he
      obtain ⟨cells, t, ha⟩ := hf.hands hfails
      refine ⟨cells ++ [], ⟨[a], l, t, rfl, .cons ha (.nil t)⟩, ?_⟩
      rw [List.append_nil]
      exact (hf.error_iff ha e).mp h
    · obtain ⟨cells, ha⟩ := hf.hands_of_ok hb
      rcases bind_result_eq_error.mp h with h | ⟨_, -, h⟩
      · obtain ⟨rest, ⟨before, after, u, rfl, hbefore⟩, hrest⟩ := ih h
        refine ⟨cells ++ rest, ⟨a :: before, after, u, rfl, .cons ha hbefore⟩, ?_⟩
        have hcells : ∀ e', ¬Blames objects d cells e' :=
          fun e' he' => nomatch hb.symm.trans ((hf.error_iff ha e').mpr he')
        exact blames_append.mpr (.inr ⟨hcells, hrest⟩)
      · cases h

/-- Items that all end normally are all handed over. -/
theorem handsEach_of_mapM (hf : HandsOver objects d hands f) {bs : List β}
    (h : (l.mapM f s).result = .ok bs) : ∃ cells t, HandsEach hands s l cells t := by
  induction l generalizing s bs with
  | nil => exact ⟨[], s, .nil s⟩
  | cons a l ih =>
    rw [List.mapM_cons] at h
    obtain ⟨b, hb, h⟩ := bind_result_eq_ok.mp h
    obtain ⟨cells, ha⟩ := hf.hands_of_ok hb
    obtain ⟨bs, hbs, -⟩ := bind_result_eq_ok.mp h
    obtain ⟨rest, u, hrest⟩ := ih hbs
    exact ⟨cells ++ rest, u, .cons ha hrest⟩

theorem blamesCulprits (hf : HandsOver objects d hands f) (s : σ) (l : List α) :
    BlamesCulprits objects d (HandsFirst hands s l) (fun cells => ∃ t, HandsEach hands s l cells t)
      (l.mapM f s).result where
  transformation e he := by
    refine ⟨fun h => hf.handsFirst_of_mapM h he, ?_⟩
    rintro ⟨cells, ⟨before, after, t, rfl, hbefore⟩, hblames⟩
    rw [List.mapM_append]
    exact bind_result_eq_error.mpr (.inl ((hf.mapM_eq_error_iff hbefore).mpr hblames))
  any cells hcells e := by
    obtain ⟨t, ht⟩ := hcells
    exact hf.mapM_eq_error_iff ht

end HandsOver

theorem mapM_liftM_result (g : α → Except Error β) (l : List α) (s : σ) :
    (l.mapM (fun a => (liftM (g a) : Action σ β)) s).result = l.mapM g := by
  rw [mapM_computes (f := fun a => (liftM (g a) : Action σ β)) (g := g) (fun _ => rfl) l]

section

variable {hands : Unit → α → List (Column × Value) → Unit → Prop} {g : α → Except Error β}
  (hf : HandsOver objects d hands fun a => (liftM (g a) : Action Unit β))
include hf

/-- Computations that have no state. -/
theorem blamesCulprits_of_computes (l : List α) :
    BlamesCulprits objects d (HandsFirst hands () l)
      (fun cells => ∃ t, HandsEach hands () l cells t) (l.mapM g) := by
  have h := hf.blamesCulprits () l
  rwa [mapM_liftM_result] at h

theorem handsEach_of_computes {l : List α} {bs : List β} (h : l.mapM g = .ok bs) :
    ∃ cells, HandsEach hands () l cells () := by
  rw [← mapM_liftM_result g l ()] at h
  obtain ⟨cells, ⟨⟩, hcells⟩ := hf.handsEach_of_mapM h
  exact ⟨cells, hcells⟩

end

end Loops

/-! ### Extraction -/

theorem Value.untransformed_holds (objects : Objects) (v : Value) (key : String) :
    (v.holds objects key).Untransformed := by
  cases v with
  | feed i =>
    refine .getBind fun feeds _ => .bind (r := fun _ _ => True) (.modify fun _ _ => trivial) ?_
    exact fun _ => untransformed_liftM _
  | _ => exact untransformed_liftM _

namespace Mapper

/-- What a row hands to the transformer of a column: what stands under its key, if it has one. -/
inductive Hands (objects : Objects) (lead : String) (row : Value) :
    Feeds → Column → List (Column × Value) → Feeds → Prop
  | absent {feeds feeds' : Feeds} {c : Column} {log : List Notice}
    (h : row.holds objects (lead ++ c.name) feeds = ⟨.ok false, feeds', log⟩) :
    Hands objects lead row feeds c [] feeds'
  | present {feeds feeds' : Feeds} {c : Column} {v : Value} {log : List Notice}
    (h : row.holds objects (lead ++ c.name) feeds = ⟨.ok true, feeds', log⟩)
    (hv : row.item (lead ++ c.name) = .ok v) : Hands objects lead row feeds c [(c, v)] feeds'

variable {objects : Objects} {lead : String} {row : Value}

theorem handsOver_cell :
    HandsOver objects .load (Hands objects lead row) (cell objects lead row) where
  error_iff := by
    intro feeds c cells feeds' h e
    cases h with
    | absent h =>
      rw [cell, bind_run_ok h]
      exact ok_eq_error_iff
    | present h hv =>
      rw [cell, bind_run_ok h, if_pos rfl, liftM_fault_bind_run, hv, blames_singleton]
      dsimp only
      rw [liftM_bind_run]
      change _ ↔ c.loaded objects _ = .error e
      cases c.loaded objects _ with
      | error e' => simp
      | ok w => simp
  state := by
    intro feeds c cells feeds' h b hb
    cases h with
    | absent h => rw [cell, bind_run_ok h]; rfl
    | present h hv =>
      rw [cell, bind_run_ok h, if_pos rfl, liftM_fault_bind_run, hv]
      dsimp only
      rw [liftM_bind_run]
      cases c.loaded objects _ <;> rfl
  hands := by
    intro feeds c h
    obtain ⟨isThere, hthere, h⟩ := (Value.untransformed_holds objects row _).exists_ok h
    rcases hr : row.holds objects (lead ++ c.name) feeds with ⟨r, feeds', log⟩
    rw [hr] at hthere
    cases hthere
    cases isThere with
    | false => exact ⟨[], feeds', .absent hr⟩
    | true =>
      rw [if_pos rfl] at h
      obtain ⟨v, hv, -⟩ := exists_ok_of_liftM h
      exact ⟨[(c, v)], feeds', .present hr hv⟩

variable {m : Mapper} {registry : Registry} {t : Table}

theorem blamesCulprits (ht : registry.table objects m.entity = .ok t)
    (hl : m.leadFor objects t = .ok lead) (row : Value) (feeds : Feeds) :
    BlamesCulprits objects .load (HandsFirst (Hands objects lead row) feeds t.columns)
      (fun cells => ∃ feeds', HandsEach (Hands objects lead row) feeds t.columns cells feeds')
      (m.extract registry objects row feeds).result := by
  refine (handsOver_cell.blamesCulprits feeds t.columns).congr fun e => ?_
  rw [extract, liftM_bind_run, ht]
  dsimp only
  rw [liftM_fault_bind_run, hl]
  dsimp only
  rw [bind_result_eq_error]
  simp

/-- A dictionary hands over all its cells. -/
theorem handsEach_dict (es : List (Value × Value)) (serial : Nat) (feeds : Feeds)
    (columns : List Column) :
    HandsEach (Hands objects lead (.dict es serial)) feeds columns
      (columns.filterMap fun c => (Value.lookup? es (lead ++ c.name)).map (c, ·)) feeds := by
  induction columns with
  | nil => exact .nil feeds
  | cons c columns ih =>
    have hholds : (Value.dict es serial).holds objects (lead ++ c.name) feeds =
        ⟨.ok (Value.lookup? es (lead ++ c.name)).isSome, feeds, []⟩ := by
      rw [Value.holds_dict]
      rfl
    rw [List.filterMap_cons]
    cases hv : Value.lookup? es (lead ++ c.name) with
    | none =>
      rw [hv] at hholds
      change HandsEach _ feeds (c :: columns) ([] ++ _) feeds
      exact .cons (.absent hholds) ih
    | some v =>
      rw [hv] at hholds
      change HandsEach _ feeds (c :: columns) ([(c, v)] ++ _) feeds
      exact .cons (.present hholds (Value.item_dict hv serial)) ih

end Mapper

end RecordSql
