import Mathlib.Data.List.Forall2
import RecordSql.Proofs.Json.Floats

/-! Arrays and objects inside structured texts, from the first item or member on. Main statements:
items and members that are read one by one are read one after the other. -/

namespace RecordSql.Json

variable {limits : Limits} {room : Nat} {rest : List Char}

/-- A text that begins with no blank and no byte order mark and closes no collection. -/
def Opens (p : List Char) : Prop :=
  ∃ c r, p = c :: r ∧ isBlank c = false ∧ c ≠ ']' ∧ c ≠ '\x7d' ∧ c ≠ '\uFEFF'

/-- A text that is read as a value, whatever comes behind it. -/
def Reads (limits : Limits) (room : Nat) (p : List Char) (v : Value) : Prop :=
  ∀ rest, Stops rest → Gives (readValue limits room (p ++ rest)) v rest

/-- A text of a member that is read as its key and its value. -/
inductive ReadsMember (limits : Limits) (room : Nat) : List Char → String × Value → Prop
  | mk {l : List Nat} {p : List Char} {v : Value} (hl : ∀ n ∈ l, IsScalar n) (hp : Opens p)
      (h : Reads limits room p v) :
      ReadsMember limits room (encodeText (Text.ofCodes l) ++ ':' :: ' ' :: p) (Text.ofCodes l, v)

theorem stops_cons {c : Char} (hc : c ∈ [',', ']', '\x7d']) (r : List Char) : Stops (c :: r) := by
  rintro _ ⟨⟩
  simp only [List.mem_cons, List.not_mem_nil, or_false] at hc
  rcases hc with rfl | rfl | rfl <;> decide

theorem stops_nil : Stops [] := nofun

theorem skipBlank_cons {c : Char} (hc : isBlank c = false) (r : List Char) :
    skipBlank (c :: r) = c :: r := List.dropWhile_cons_of_neg (by rw [hc]; decide)

theorem Opens.skipBlank_append {p : List Char} (hp : Opens p) (rest : List Char) :
    skipBlank (p ++ rest) = p ++ rest := by
  obtain ⟨c, r, rfl, hc, -⟩ := hp
  exact skipBlank_cons hc _

theorem Opens.append {p : List Char} (hp : Opens p) (rest : List Char) : Opens (p ++ rest) := by
  obtain ⟨c, r, rfl, hc⟩ := hp
  exact ⟨c, r ++ rest, rfl, hc⟩

theorem commas_append {p q : List Char} (ps : List (List Char)) (rest : List Char) :
    commas (p :: q :: ps) ++ rest = p ++ ',' :: ' ' :: (commas (q :: ps) ++ rest) :=
  List.append_assoc _ _ _

theorem Opens.commas {p : List Char} (hp : Opens p) (ps : List (List Char)) :
    Opens (commas (p :: ps)) := by
  cases ps with
  | nil => exact hp
  | cons q ps => exact hp.append _

/-- The blank behind a comma is passed over. -/
theorem Opens.skipBlank_commas {p : List Char} (hp : Opens p) (ps : List (List Char))
    (rest : List Char) :
    skipBlank (' ' :: (Json.commas (p :: ps) ++ rest)) = Json.commas (p :: ps) ++ rest :=
  (hp.commas ps).skipBlank_append rest

/-! ### Arrays -/

/-- An item before the closing bracket. -/
theorem readItems_last {s : List Char} {v : Value}
    (h : Gives (readValue limits room s) v (']' :: rest)) :
    Gives (readItems limits room s) [v] rest := by
  obtain ⟨⟨v, r, hlt⟩, h, rfl, rfl⟩ := h
  have hskip := skipBlank_cons (c := ']') rfl rest
  rw [readItems]
  simp only [h]
  split
  · rename_i heq
    cases hskip.symm.trans heq
    exact gives_ok _
  · rename_i heq
    cases hskip.symm.trans heq
  · rename_i hclose _
    exact (hclose _ hskip).elim

/-- An item before other ones. -/
theorem readItems_more {s t : List Char} {v : Value} {vs : List Value}
    (h : Gives (readValue limits room s) v (',' :: t))
    (ht : Gives (readItems limits room (skipBlank t)) vs rest) :
    Gives (readItems limits room s) (v :: vs) rest := by
  obtain ⟨⟨v, r, hlt⟩, h, rfl, rfl⟩ := h
  obtain ⟨⟨vs, rest, hlt'⟩, ht, rfl, rfl⟩ := ht
  have hskip := skipBlank_cons (c := ',') rfl t
  rw [readItems]
  simp only [h]
  split
  · rename_i heq
    cases hskip.symm.trans heq
  · rename_i heq
    cases hskip.symm.trans heq
    simp only [ht]
    exact gives_ok _
  · rename_i _ hmore
    exact (hmore _ hskip).elim

/-- Items that are read each are read one after the other. -/
theorem readItems_commas {ps : List (List Char)} {vs : List Value} (hne : ps ≠ [])
    (h : List.Forall₂ (fun p v => Opens p ∧ Reads limits room p v) ps vs) (rest : List Char) :
    Gives (readItems limits room (commas ps ++ ']' :: rest)) vs rest := by
  induction h with
  | nil => exact absurd rfl hne
  | @cons p v ps vs hp h ih =>
    cases h with
    | nil => exact readItems_last (hp.2 _ (stops_cons (by decide) rest))
    | @cons p' v' ps vs hp' h =>
      have hrest := ih (List.cons_ne_nil _ _)
      rw [commas_append]
      refine readItems_more (hp.2 _ (stops_cons (by decide) _)) ?_
      rw [hp'.1.skipBlank_commas]
      exact hrest

/-- What stands behind an opening bracket that is not closed at once. -/
theorem readValue_items {r : List Char} {vs : List Value} (hr : ∀ t, skipBlank r ≠ ']' :: t)
    (h : Gives (readItems limits room (skipBlank r)) vs rest) :
    Gives (readValue limits (room + 1) ('[' :: r)) (.list vs) rest := by
  obtain ⟨⟨vs, rest, hlt⟩, h, rfl, rfl⟩ := h
  rw [readValue, if_neg (Nat.succ_ne_zero room)]
  split
  · rename_i heq
    exact (hr _ heq).elim
  · simp only [Nat.add_sub_cancel, h]
    exact gives_ok _

theorem readValue_no_items :
    Gives (readValue limits (room + 1) ('[' :: ']' :: rest)) (.list []) rest := by
  have hskip := skipBlank_cons (c := ']') rfl rest
  rw [readValue, if_neg (Nat.succ_ne_zero room)]
  split
  · rename_i heq
    cases hskip.symm.trans heq
    exact gives_ok _
  · rename_i hclose
    exact (hclose _ hskip).elim

/-- An array of items that are read each. -/
theorem readValue_array {ps : List (List Char)} {vs : List Value}
    (h : List.Forall₂ (fun p v => Opens p ∧ Reads limits room p v) ps vs) :
    Reads limits (room + 1) ('[' :: commas ps ++ [']']) (.list vs) := by
  intro rest _
  rw [List.cons_append, List.cons_append, List.append_assoc, List.singleton_append]
  cases h with
  | nil => exact readValue_no_items
  | @cons p v ps vs hp h =>
    have hskip := (hp.1.commas ps).skipBlank_append (']' :: rest)
    refine readValue_items ?_ ?_
    · intro t ht
      obtain ⟨c, r, hc, -, hclose, -⟩ := hp.1.commas ps
      rw [hskip, hc] at ht
      exact hclose (List.cons.inj ht).1
    · rw [hskip]
      exact readItems_commas (List.cons_ne_nil _ _) (.cons hp h) rest

/-! ### Objects -/

/-- A member before the closing brace. -/
theorem readMembers_last {r t u : List Char} {cs : List Char} {v : Value}
    (hkey : Gives (readText (r.length + 1) r) cs t) (ht : skipBlank t = ':' :: u)
    (hv : Gives (readValue limits room (skipBlank u)) v ('\x7d' :: rest)) :
    Gives (readMembers limits room ('"' :: r)) [(String.ofList cs, v)] rest := by
  obtain ⟨⟨cs, t, hlt⟩, hkey, rfl, rfl⟩ := hkey
  obtain ⟨⟨v, w, hlt'⟩, hv, rfl, rfl⟩ := hv
  have hskip := skipBlank_cons (c := '\x7d') rfl rest
  rw [readMembers]
  simp only [hkey]
  split
  · rename_i heq
    cases ht.symm.trans heq
    simp only [hv]
    split
    · rename_i heq
      cases hskip.symm.trans heq
      exact gives_ok _
    · rename_i heq
      cases hskip.symm.trans heq
    · rename_i hclose _
      exact (hclose _ hskip).elim
  · rename_i hcolon
    exact (hcolon _ ht).elim

/-- A member before other ones. -/
theorem readMembers_more {r t u x : List Char} {cs : List Char} {v : Value}
    {es : List (String × Value)}
    (hkey : Gives (readText (r.length + 1) r) cs t) (ht : skipBlank t = ':' :: u)
    (hv : Gives (readValue limits room (skipBlank u)) v (',' :: x))
    (hx : Gives (readMembers limits room (skipBlank x)) es rest) :
    Gives (readMembers limits room ('"' :: r)) ((String.ofList cs, v) :: es) rest := by
  obtain ⟨⟨cs, t, hlt⟩, hkey, rfl, rfl⟩ := hkey
  obtain ⟨⟨v, w, hlt'⟩, hv, rfl, rfl⟩ := hv
  obtain ⟨⟨es, rest, hlt''⟩, hx, rfl, rfl⟩ := hx
  have hskip := skipBlank_cons (c := ',') rfl x
  rw [readMembers]
  simp only [hkey]
  split
  · rename_i heq
    cases ht.symm.trans heq
    simp only [hv]
    split
    · rename_i heq
      cases hskip.symm.trans heq
    · rename_i heq
      cases hskip.symm.trans heq
      simp only [hx]
      exact gives_ok _
    · rename_i _ hmore
      exact (hmore _ hskip).elim
  · rename_i hcolon
    exact (hcolon _ ht).elim

/-- The key of a member, and what is read behind it. -/
theorem ReadsMember.exists_read {q : List Char} {e : String × Value}
    (h : ReadsMember limits room q e) (s : List Char) :
    ∃ r cs t u, q ++ s = '"' :: r ∧ Gives (readText (r.length + 1) r) cs t ∧
      skipBlank t = ':' :: u ∧ e.1 = String.ofList cs ∧
      (Stops s → Gives (readValue limits room (skipBlank u)) e.2 s) := by
  obtain ⟨hl, hp, hv⟩ := h
  rename_i l p v
  rw [List.append_assoc, encodeText_append hl]
  refine ⟨_, _, _, ' ' :: (p ++ s), rfl, readText_encoded hl _ _, skipBlank_cons rfl _, rfl, ?_⟩
  intro hs
  rw [show skipBlank (' ' :: (p ++ s)) = p ++ s from hp.skipBlank_append s]
  exact hv s hs

theorem ReadsMember.opens {q : List Char} {e : String × Value} (h : ReadsMember limits room q e) :
    Opens q := by
  obtain ⟨hl, -, -⟩ := h
  rw [encodeText_append hl]
  exact ⟨_, _, rfl, by decide⟩

/-- Members that are read each are read one after the other. -/
theorem readMembers_commas {qs : List (List Char)} {es : List (String × Value)} (hne : qs ≠ [])
    (h : List.Forall₂ (ReadsMember limits room) qs es) (rest : List Char) :
    Gives (readMembers limits room (commas qs ++ '\x7d' :: rest)) es rest := by
  induction h with
  | nil => exact absurd rfl hne
  | @cons q e qs es hq h ih =>
    obtain ⟨key, v⟩ := e
    cases h with
    | nil =>
      obtain ⟨r, cs, t, u, heq, hkey, ht, rfl, hv⟩ := hq.exists_read ('\x7d' :: rest)
      rw [commas, heq]
      exact readMembers_last hkey ht (hv (stops_cons (by decide) rest))
    | @cons q' e' qs es hq' h =>
      obtain ⟨r, cs, t, u, heq, hkey, ht, rfl, hv⟩ :=
        hq.exists_read (',' :: ' ' :: (commas (q' :: qs) ++ '\x7d' :: rest))
      rw [commas_append, heq]
      refine readMembers_more hkey ht (hv (stops_cons (by decide) _)) ?_
      rw [hq'.opens.skipBlank_commas]
      exact ih (List.cons_ne_nil _ _)

/-- What stands behind an opening brace that is not closed at once. -/
theorem readValue_members {r : List Char} {es : List (String × Value)}
    (hr : ∀ t, skipBlank r ≠ '\x7d' :: t)
    (h : Gives (readMembers limits room (skipBlank r)) es rest) :
    Gives (readValue limits (room + 1) ('\x7b' :: r)) (dictOf es) rest := by
  obtain ⟨⟨es, rest, hlt⟩, h, rfl, rfl⟩ := h
  rw [readValue, if_neg (Nat.succ_ne_zero room)]
  split
  · rename_i heq
    exact (hr _ heq).elim
  · simp only [Nat.add_sub_cancel, h]
    exact gives_ok _

theorem readValue_no_members :
    Gives (readValue limits (room + 1) ('\x7b' :: '\x7d' :: rest)) (.dict []) rest := by
  have hskip := skipBlank_cons (c := '\x7d') rfl rest
  rw [readValue, if_neg (Nat.succ_ne_zero room)]
  split
  · rename_i heq
    cases hskip.symm.trans heq
    exact gives_ok _
  · rename_i hclose
    exact (hclose _ hskip).elim

/-- A new key is put at the end. -/
theorem put_eq_append {κ α : Type} [DecidableEq κ] {m : Assoc κ α} {k : κ} {a : α}
    (hk : k ∉ m.map (·.1)) : Assoc.put m k a = m ++ [(k, a)] := by
  induction m with
  | nil => rfl
  | cons e m ih =>
    obtain ⟨hne, hm⟩ := not_or.mp (mt List.mem_cons.mpr hk)
    rw [Assoc.put, if_neg (Ne.symm hne), ih hm, List.cons_append]

/-- Different keys that are put one after the other stay in their order. -/
theorem foldl_put {κ α : Type} [DecidableEq κ] {m es : Assoc κ α}
    (hkeys : ((m ++ es).map (·.1)).Nodup) :
    es.foldl (fun m e => Assoc.put m e.1 e.2) m = m ++ es := by
  induction es generalizing m with
  | nil => exact (List.append_nil m).symm
  | cons e es ih =>
    have hnew : e.1 ∉ m.map (·.1) := by
      rw [List.map_append, List.nodup_append] at hkeys
      exact fun hm => hkeys.2.2 _ hm _ List.mem_cons_self rfl
    rw [List.append_cons] at hkeys ⊢
    rw [List.foldl_cons, put_eq_append hnew]
    exact ih hkeys

theorem dictOf_eq {es : List (String × Value)} (hkeys : (es.map (·.1)).Nodup) :
    dictOf es = .dict (Value.entries es) := by
  rw [dictOf, foldl_put (m := []) hkeys]
  rfl

/-- An object of members that are read each, with different keys. -/
theorem readValue_object {qs : List (List Char)} {es : List (String × Value)}
    (h : List.Forall₂ (ReadsMember limits room) qs es) (hkeys : (es.map (·.1)).Nodup) :
    Reads limits (room + 1) ('\x7b' :: commas qs ++ ['\x7d']) (.dict (Value.entries es)) := by
  intro rest _
  rw [List.cons_append, List.cons_append, List.append_assoc, List.singleton_append]
  cases h with
  | nil => exact readValue_no_members
  | @cons q e qs es hq h =>
    have hskip := (hq.opens.commas qs).skipBlank_append ('\x7d' :: rest)
    rw [← dictOf_eq hkeys]
    refine readValue_members ?_ ?_
    · intro t ht
      obtain ⟨c, r, hc, -, -, hclose, -⟩ := hq.opens.commas qs
      rw [hskip, hc] at ht
      exact hclose (List.cons.inj ht).1
    · rw [hskip]
      exact readMembers_commas (List.cons_ne_nil _ _) (.cons hq h) rest

end RecordSql.Json
