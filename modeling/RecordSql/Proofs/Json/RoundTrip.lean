import RecordSql.Proofs.Computation
import RecordSql.Proofs.Json.Collections

/-! Structured texts read back. Main statement: a value that a structured text can represent is
given back by the text that it is written as, of any depth and with integers of any length that are
read. -/

namespace RecordSql

/-! ### Measures of values -/

namespace Value

mutual

/-- The same value, held by nothing yet: the values in lists and dictionaries are told by their
parts alone. -/
def fresh : Value → Value
  | list l _ => list (freshItems l)
  | dict es _ => dict (freshEntries es)
  | v => v

def freshItems : List Value → List Value
  | [] => []
  | v :: l => v.fresh :: freshItems l

def freshEntries : List (Value × Value) → List (Value × Value)
  | [] => []
  | (k, v) :: es => (k, v.fresh) :: freshEntries es

end

mutual

/-- How deep lists and dictionaries lie inside each other. -/
def depth : Value → Nat
  | list l _ => depthItems l + 1
  | dict es _ => depthEntries es + 1
  | _ => 0

def depthItems : List Value → Nat
  | [] => 0
  | v :: l => max v.depth (depthItems l)

def depthEntries : List (Value × Value) → Nat
  | [] => 0
  | (_, v) :: es => max v.depth (depthEntries es)

end

mutual

/-- How many digits the longest integer has. -/
def longest : Value → Nat
  | int n => Double.decimalLength n.natAbs
  | list l _ => longestItems l
  | dict es _ => longestEntries es
  | _ => 0

def longestItems : List Value → Nat
  | [] => 0
  | v :: l => max v.longest (longestItems l)

def longestEntries : List (Value × Value) → Nat
  | [] => 0
  | (_, v) :: es => max v.longest (longestEntries es)

end

end Value

namespace Json

/-- A text of characters, none of which is a surrogate. -/
def IsText (s : String) : Prop := ∃ l, (∀ n ∈ l, IsScalar n) ∧ s = Text.ofCodes l

/-- The values that structured texts represent. A finite number must read back from its text. -/
inductive Representable : Value → Prop
  | null : Representable .null
  | bool (b : Bool) : Representable (.bool b)
  | int (n : Int) : Representable (.int n)
  | float {x : Double} (hx : x.isFinite = true)
      (hback : Double.ofText? 0 (Double.Style.plain.text x) = some x) : Representable (.float x)
  | text {s : String} (hs : IsText s) : Representable (.text s)
  | list {l : List Value} (h : ∀ v ∈ l, Representable v) (serial : Nat) :
      Representable (.list l serial)
  | dict {members : List (String × Value)} (hkeys : (members.map (·.1)).Nodup)
      (htexts : ∀ e ∈ members, IsText e.1) (h : ∀ e ∈ members, Representable e.2) (serial : Nat) :
      Representable (.dict (Value.entries members) serial)

/-- The text that a value is written as, and read back from. -/
structure Encoded (refused : Value → Fault) (v : Value) (p : List Char) : Prop where
  encode : encode refused v = .ok p
  opens : Opens p
  reads : ∀ limits room, v.longest ≤ limits.digits → v.depth ≤ room → Reads limits room p v.fresh

variable {refused : Value → Fault} {limits : Limits} {room : Nat}

/-! ### Items and members -/

theorem exists_encodedItems {l : List Value} (h : ∀ v ∈ l, ∃ p, Encoded refused v p) :
    ∃ ps, encodeItems refused l = .ok ps ∧ List.Forall₂ (Encoded refused) l ps := by
  induction l with
  | nil => exact ⟨[], rfl, .nil⟩
  | cons v l ih =>
    obtain ⟨p, hp⟩ := h v List.mem_cons_self
    obtain ⟨ps, hps, hl⟩ := ih fun v' hv => h v' (List.mem_cons_of_mem v hv)
    exact ⟨p :: ps, by rw [encodeItems, hp.encode, hps]; rfl, .cons hp hl⟩

theorem readsItems_of_encoded {l : List Value} {ps : List (List Char)}
    (h : List.Forall₂ (Encoded refused) l ps) (hdigits : Value.longestItems l ≤ limits.digits)
    (hdepth : Value.depthItems l ≤ room) :
    List.Forall₂ (fun p v => Opens p ∧ Reads limits room p v) ps (Value.freshItems l) := by
  induction h with
  | nil => exact .nil
  | @cons v p l ps hp _ ih =>
    rw [Value.longestItems] at hdigits
    rw [Value.depthItems] at hdepth
    rw [Value.freshItems]
    exact .cons ⟨hp.opens, hp.reads _ _ (by omega) (by omega)⟩ (ih (by omega) (by omega))

theorem exists_encodedEntries {members : List (String × Value)} (htexts : ∀ e ∈ members, IsText e.1)
    (h : ∀ e ∈ members, ∃ p, Encoded refused e.2 p) :
    ∃ ps, encodeEntries refused (Value.entries members) =
        .ok (List.zipWith (fun e p => encodeText e.1 ++ ':' :: ' ' :: p) members ps) ∧
      List.Forall₂ (fun e p => IsText e.1 ∧ Encoded refused e.2 p) members ps := by
  induction members with
  | nil => exact ⟨[], rfl, .nil⟩
  | cons e members ih =>
    obtain ⟨p, hp⟩ := h e List.mem_cons_self
    obtain ⟨ps, hps, hl⟩ := ih (fun e' he => htexts e' (List.mem_cons_of_mem e he))
      fun e' he => h e' (List.mem_cons_of_mem e he)
    refine ⟨p :: ps, ?_, .cons ⟨htexts e List.mem_cons_self, hp⟩ hl⟩
    rw [Value.entries] at hps
    rw [Value.entries, List.map_cons, encodeEntries, hp.encode, hps]
    rfl

theorem readsMembers_of_encoded {members : List (String × Value)} {ps : List (List Char)}
    (h : List.Forall₂ (fun e p => IsText e.1 ∧ Encoded refused e.2 p) members ps)
    (hdigits : Value.longestEntries (Value.entries members) ≤ limits.digits)
    (hdepth : Value.depthEntries (Value.entries members) ≤ room) :
    List.Forall₂ (ReadsMember limits room)
      (List.zipWith (fun e p => encodeText e.1 ++ ':' :: ' ' :: p) members ps)
      (members.map fun e => (e.1, e.2.fresh)) := by
  induction h with
  | nil => exact .nil
  | @cons e p members ps hp _ ih =>
    rw [Value.entries, List.map_cons, Value.longestEntries] at hdigits
    rw [Value.entries, List.map_cons, Value.depthEntries] at hdepth
    obtain ⟨⟨l, hl, htext⟩, hp⟩ := hp
    rw [List.zipWith_cons_cons, List.map_cons, htext]
    refine .cons (.mk hl hp.opens (hp.reads _ _ (by omega) (by omega))) (ih ?_ ?_)
    · exact Nat.le_trans (Nat.le_max_right _ _) hdigits
    · exact Nat.le_trans (Nat.le_max_right _ _) hdepth

theorem freshEntries_entries (members : List (String × Value)) :
    Value.freshEntries (Value.entries members) =
      Value.entries (members.map fun e => (e.1, e.2.fresh)) := by
  induction members with
  | nil => rfl
  | cons e members ih =>
    rw [Value.entries] at ih
    rw [Value.entries, List.map_cons, Value.freshEntries, ih]
    rfl

/-! ### Values -/

/-- A word is read, unless one before it among the words begins the text as well. -/
theorem reads_word (before : List (List Char × Value)) {after : List (List Char × Value)} {c : Char}
    {w : List Char} {v : Value} (hwords : words = before ++ (c :: w, v) :: after)
    (hc : c ≠ '"' ∧ c ≠ '[' ∧ c ≠ '\x7b')
    (hbefore : ∀ rest, ∀ e ∈ before, e.1.isPrefixOf (c :: w ++ rest) = false) :
    Reads limits room (c :: w) v := by
  intro rest _
  have hlt : rest.length < (c :: w ++ rest).length := by
    rw [List.length_append, List.length_cons]
    omega
  have hstarts : (c :: w).isPrefixOf (c :: w ++ rest) = true :=
    List.isPrefixOf_iff_prefix.mpr (List.prefix_append _ rest)
  have hword : readWord? (c :: (w ++ rest)) = some ⟨v, rest, hlt⟩ := by
    change readWord? (c :: w ++ rest) = some ⟨v, rest, hlt⟩
    rw [readWord?, hwords, List.findSome?_append, List.findSome?_eq_none_iff.mpr, Option.none_or,
      List.findSome?_cons]
    · simp only [hstarts, if_true, List.drop_left, dif_pos hlt]
    · intro e he
      simp only [hbefore rest e he, Bool.false_eq_true, if_false]
  rw [List.cons_append, readValue_plain hc, hword]
  exact gives_ok hlt

theorem reads_null : Reads limits room "null".toList .null :=
  reads_word [] rfl (by decide) fun _ => nofun

theorem reads_encodeBool (b : Bool) : Reads limits room (encodeBool b) (.bool b) := by
  cases b with
  | true =>
    refine reads_word (words.take 1) rfl (by decide) fun rest => ?_
    exact List.forall_mem_singleton.mpr rfl
  | false =>
    refine reads_word (words.take 2) rfl (by decide) fun rest => ?_
    exact List.forall_mem_cons.mpr ⟨rfl, List.forall_mem_singleton.mpr rfl⟩

theorem reads_encodeText {l : List Nat} (hl : ∀ n ∈ l, IsScalar n) :
    Reads limits room (encodeText (Text.ofCodes l)) (.text (Text.ofCodes l)) := by
  intro rest _
  rw [encodeText_append hl]
  exact readValue_quote (readText_encoded hl _ rest)

/-- A numeral opens with a digit or a sign. -/
theorem opens_text {x : Numeral} (hx : x.Sound) (negative : Bool) :
    Opens ((if negative then ['-'] else []) ++ x.text) := by
  obtain ⟨c, r, hfirst, hc⟩ := hx.exists_first
  cases negative with
  | true => exact ⟨'-', _, rfl, by decide⟩
  | false =>
    have hother (d : Char) (hd : d.isDigit = false) : c ≠ d := (ne_of_isDigit hc hd).symm
    rw [Numeral.text, hfirst]
    refine ⟨c, _, rfl, ?_, hother _ rfl, hother _ rfl, hother _ rfl⟩
    simp [isBlank, hother]

/-- A representable value has a text that it is read back from. -/
theorem exists_encoded (refused : Value → Fault) {v : Value} (hv : Representable v) :
    ∃ p, Encoded refused v p := by
  induction hv with
  | null => exact ⟨_, rfl, ⟨_, _, rfl, by decide⟩, fun _ _ _ _ => reads_null⟩
  | bool b =>
    refine ⟨_, rfl, ?_, fun _ _ _ _ => reads_encodeBool b⟩
    cases b <;> exact ⟨_, _, rfl, by decide⟩
  | int n =>
    refine ⟨_, rfl, encodeInt_eq n ▸ opens_text (sound_digitsOf _) _, fun _ _ hdigits _ _ => ?_⟩
    rw [Value.longest] at hdigits
    exact readValue_encodeInt hdigits
  | @float x hx hback =>
    refine ⟨_, rfl, ?_, fun _ _ _ _ _ => readValue_encodeFloat hx hback⟩
    rw [encodeFloat, (Double.text_of_isFinite hx).2]
    exact opens_text (Double.sound_numeral_of_double x).1 _
  | text hs =>
    obtain ⟨l, hl, rfl⟩ := hs
    exact ⟨_, rfl, ⟨_, _, rfl, by decide⟩, fun _ _ _ _ => reads_encodeText hl⟩
  | @list l h serial ih =>
    obtain ⟨ps, hps, hl⟩ := exists_encodedItems ih
    refine ⟨'[' :: commas ps ++ [']'], by rw [encode, hps]; rfl, ⟨_, _, rfl, by decide⟩, ?_⟩
    intro limits room hdigits hdepth
    rw [Value.longest] at hdigits
    rw [Value.depth] at hdepth
    obtain ⟨room, rfl⟩ : ∃ n, room = n + 1 := Nat.exists_eq_add_one.mpr (by omega)
    rw [Value.fresh]
    exact readValue_array (readsItems_of_encoded hl hdigits (by omega))
  | @dict members hkeys htexts h serial ih =>
    obtain ⟨ps, hps, hl⟩ := exists_encodedEntries htexts ih
    refine ⟨_, by rw [encode, hps]; rfl, ⟨_, _, rfl, by decide⟩, ?_⟩
    intro limits room hdigits hdepth
    rw [Value.longest] at hdigits
    rw [Value.depth] at hdepth
    obtain ⟨room, rfl⟩ : ∃ n, room = n + 1 := Nat.exists_eq_add_one.mpr (by omega)
    rw [Value.fresh, freshEntries_entries]
    refine readValue_object (readsMembers_of_encoded hl hdigits (by omega)) ?_
    rw [List.map_map]
    exact hkeys

theorem readDocument_of_gives {s : List Char} {v : Value}
    (h : Gives (readValue limits limits.depth (skipBlank s)) v []) :
    readDocument limits s = .ok v := by
  obtain ⟨⟨v, r, hlt⟩, h, rfl, rfl⟩ := h
  rw [readDocument]
  simp only [h]
  rfl

/-- The whole text of a value is read, within limits that the value keeps. -/
theorem Encoded.load {v : Value} {p : List Char} (h : Encoded refused v p)
    (hdigits : v.longest ≤ limits.digits) (hdepth : v.depth ≤ limits.depth) :
    load limits (.text (String.ofList p)) = .ok v.fresh := by
  have hread := h.reads limits limits.depth hdigits hdepth [] stops_nil
  rw [← h.opens.skipBlank_append [], List.append_nil] at hread
  have hmark : p.head? ≠ some '\uFEFF' := by
    obtain ⟨c, r, rfl, -, -, -, hc⟩ := h.opens
    exact fun hhead => hc (Option.some.inj hhead)
  rw [Json.load, String.toList_ofList, if_neg hmark, decode, readDocument_of_gives hread]
  rfl

end Json

end RecordSql
