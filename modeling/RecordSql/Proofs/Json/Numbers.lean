import RecordSql.Proofs.Json.Texts

/-! Numbers inside structured texts. The text of a number is a numeral: digits, perhaps digits
behind a point, and perhaps an exponent. Main statement: a numeral is read to its end, and as the
number of its parts, so that integers are read back. -/

namespace RecordSql

/-- The parts of the text of a number: the digits before and behind the point, and the direction and
the digits of an exponent. -/
structure Numeral where
  whole : List Char
  part : List Char
  exponent : Option (Bool × List Char)

namespace Numeral

def exponentText : Option (Bool × List Char) → List Char
  | none => []
  | some (down, ds) => 'e' :: (if down then '-' else '+') :: ds

def text (x : Numeral) : List Char :=
  x.whole ++ ((if x.part.isEmpty then [] else '.' :: x.part) ++ exponentText x.exponent)

/-- Where the exponent moves the point to. -/
def shift (x : Numeral) : Int :=
  match x.exponent with
  | none => 0
  | some (down, ds) => if down then -(Double.ofDigits ds : Int) else Double.ofDigits ds

/-- Parts that are made of digits, without zeros in front. -/
structure Sound (x : Numeral) : Prop where
  whole : ∀ c ∈ x.whole, c.isDigit = true
  first : x.whole = ['0'] ∨ ∃ c r, x.whole = c :: r ∧ c ≠ '0'
  part : ∀ c ∈ x.part, c.isDigit = true
  exponent : ∀ e, x.exponent = some e → e.2 ≠ [] ∧ ∀ c ∈ e.2, c.isDigit = true

/-- A sound numeral begins with a digit. -/
theorem Sound.exists_first {x : Numeral} (hx : x.Sound) :
    ∃ c r, x.whole = c :: r ∧ c.isDigit = true := by
  obtain ⟨c, r, h⟩ : ∃ c r, x.whole = c :: r := by
    rcases hx.first with h | ⟨c, r, h, -⟩
    · exact ⟨_, _, h⟩
    · exact ⟨c, r, h⟩
  exact ⟨c, r, h, hx.whole c (h ▸ List.mem_cons_self)⟩

end Numeral

namespace Json

/-- A digit is none of the other characters. -/
theorem ne_of_isDigit {c d : Char} (hc : c.isDigit = true) (hd : d.isDigit = false) : d ≠ c := by
  rintro rfl
  rw [hc] at hd
  cases hd

/-- A text by which no number goes on. -/
def Stops (s : List Char) : Prop :=
  ∀ c ∈ s.head?, c.isDigit = false ∧ c ≠ '.' ∧ c ≠ 'e' ∧ c ≠ 'E'

variable {x : Numeral} {rest : List Char}

theorem splitDigits_append {ds : List Char} (hd : ∀ c ∈ ds, c.isDigit = true)
    (hr : ∀ c ∈ rest.head?, c.isDigit = false) : splitDigits (ds ++ rest) = (ds, rest) := by
  have hrest : rest.takeWhile Char.isDigit = [] ∧ rest.dropWhile Char.isDigit = rest := by
    cases rest with
    | nil => exact ⟨rfl, rfl⟩
    | cons c r =>
      have hc := hr c rfl
      exact ⟨List.takeWhile_cons_of_neg (by rw [hc]; decide),
        List.dropWhile_cons_of_neg (by rw [hc]; decide)⟩
  rw [splitDigits, List.takeWhile_append_of_pos hd, List.dropWhile_append_of_pos hd, hrest.1,
    hrest.2, List.append_nil]

theorem splitWhole_append (hx : x.Sound) (hr : ∀ c ∈ rest.head?, c.isDigit = false) :
    splitWhole (x.whole ++ rest) = (x.whole, rest) := by
  rcases hx.first with h | ⟨c, r, h, hc⟩
  · rw [h]
    rfl
  · rw [← splitDigits_append hx.whole hr, h, List.cons_append, splitWhole]
    exact fun _ h => hc (List.cons.inj h).1

theorem splitPart_append (hx : x.Sound) (hr : ∀ c ∈ rest.head?, c.isDigit = false ∧ c ≠ '.') :
    splitPart ((if x.part.isEmpty then [] else '.' :: x.part) ++ rest) = (x.part, rest) := by
  cases hp : x.part with
  | nil =>
    cases rest with
    | nil => rfl
    | cons c r =>
      rw [List.isEmpty_nil, if_pos rfl, List.nil_append, splitPart]
      exact fun _ h => (hr c rfl).2 (List.cons.inj h).1
  | cons c r =>
    have hsplit : splitDigits (c :: r ++ rest) = (c :: r, rest) :=
      splitDigits_append (hp ▸ hx.part) fun c hc => (hr c hc).1
    rw [List.isEmpty_cons, if_neg Bool.false_ne_true, List.cons_append, splitPart, hsplit]
    rfl

theorem splitExponent_append (hx : x.Sound) (hr : Stops rest) :
    splitExponent (Numeral.exponentText x.exponent ++ rest) = (x.exponent, rest) := by
  cases he : x.exponent with
  | none =>
    cases rest with
    | nil => rfl
    | cons c r =>
      obtain ⟨-, -, he, hE⟩ := hr c rfl
      simp [Numeral.exponentText, splitExponent, he, hE]
  | some e =>
    obtain ⟨down, ds⟩ := e
    obtain ⟨hne, hd⟩ := hx.exponent _ he
    cases ds with
    | nil => exact absurd rfl hne
    | cons c r =>
      have hsplit : splitDigits (c :: (r ++ rest)) = (c :: r, rest) :=
        splitDigits_append hd fun c hc => (hr c hc).1
      cases down <;> simp [Numeral.exponentText, splitExponent, Double.splitSign, hsplit]

/-- What follows the digits behind the point begins with no digit and no point. -/
theorem head_exponentText (hr : Stops rest) :
    ∀ c ∈ (Numeral.exponentText x.exponent ++ rest).head?, c.isDigit = false ∧ c ≠ '.' := by
  intro c hc
  cases he : x.exponent with
  | none =>
    rw [he] at hc
    exact ⟨(hr c hc).1, (hr c hc).2.1⟩
  | some e =>
    rw [he] at hc
    obtain rfl : 'e' = c := Option.some.inj hc
    decide

/-- What follows the digits before the point begins with no digit. -/
theorem head_part (hr : Stops rest) :
    ∀ c ∈ ((if x.part.isEmpty then [] else '.' :: x.part) ++
      (Numeral.exponentText x.exponent ++ rest)).head?, c.isDigit = false := by
  intro c hc
  cases hp : x.part with
  | nil =>
    rw [hp] at hc
    exact (head_exponentText hr c hc).1
  | cons d r =>
    rw [hp] at hc
    obtain rfl : '.' = c := Option.some.inj hc
    decide

theorem splitNumber?_text (limits : Limits) (negative : Bool) (hx : x.Sound) (hr : Stops rest) :
    splitNumber? limits ((if negative then ['-'] else []) ++ (x.text ++ rest)) =
      some (numberOf limits negative x.whole x.part x.exponent, rest) := by
  obtain ⟨c, r, hfirst, hc⟩ := hx.exists_first
  have hunsigned : ∀ t, x.text ++ rest = '-' :: t → False := by
    intro t ht
    rw [Numeral.text, hfirst] at ht
    exact ne_of_isDigit hc rfl (List.cons.inj ht).1.symm
  have hne : x.whole.isEmpty = false := by rw [hfirst]; rfl
  have hwhole := splitWhole_append hx (head_part (x := x) hr)
  rw [← List.append_assoc, ← List.append_assoc, List.append_assoc x.whole, ← Numeral.text] at hwhole
  have hpart := splitPart_append hx (head_exponentText (x := x) hr)
  have hexponent := splitExponent_append hx hr
  cases negative with
  | true =>
    rw [if_pos rfl, List.cons_append, List.nil_append, splitNumber?]
    simp only [hwhole, hne, hpart, hexponent, Bool.false_eq_true, if_false]
  | false =>
    rw [if_neg Bool.false_ne_true, List.nil_append, splitNumber?]
    · simp only [hwhole, hne, hpart, hexponent, Bool.false_eq_true, if_false]
    · exact hunsigned

theorem length_lt_text (hx : x.Sound) (sign : List Char) :
    rest.length < (sign ++ (x.text ++ rest)).length := by
  obtain ⟨c, r, hfirst, -⟩ := hx.exists_first
  simp only [Numeral.text, hfirst, List.length_append, List.length_cons]
  omega

theorem readNumber_text {limits : Limits} {negative : Bool} {v : Value} (hx : x.Sound)
    (hr : Stops rest) (hv : numberOf limits negative x.whole x.part x.exponent = .ok v) :
    Gives (readNumber limits ((if negative then ['-'] else []) ++ (x.text ++ rest))) v rest := by
  rw [readNumber]
  simp only [splitNumber?_text limits negative hx hr, hv, length_lt_text hx, dif_pos]
  exact gives_ok _

/-- No word begins like a number. -/
theorem readWord?_text (hx : x.Sound) (negative : Bool) :
    readWord? ((if negative then ['-'] else []) ++ (x.text ++ rest)) = none := by
  obtain ⟨c, r, hfirst, hc⟩ := hx.exists_first
  have hother (d : Char) (hd : d.isDigit = false) : d ≠ c := ne_of_isDigit hc hd
  cases negative <;> simp [readWord?, words, Numeral.text, hfirst, hother]

/-- A value that begins neither like a text nor like a collection. -/
theorem readValue_plain {limits : Limits} {room : Nat} {c : Char} {r : List Char}
    (hc : c ≠ '"' ∧ c ≠ '[' ∧ c ≠ '\x7b') :
    readValue limits room (c :: r) =
      (readWord? (c :: r)).elim (readNumber limits (c :: r)) .ok := by
  rw [readValue]
  · cases readWord? (c :: r) <;> rfl
  · exact fun _ h => hc.1 (List.cons.inj h).1
  · exact fun _ h => hc.2.1 (List.cons.inj h).1
  · exact fun _ h => hc.2.2 (List.cons.inj h).1

theorem readValue_number {limits : Limits} {room : Nat} {c : Char} {r : List Char} {v : Value}
    (hc : c ≠ '"' ∧ c ≠ '[' ∧ c ≠ '\x7b') (hword : readWord? (c :: r) = none)
    (h : Gives (readNumber limits (c :: r)) v rest) :
    Gives (readValue limits room (c :: r)) v rest := by
  rw [readValue_plain hc, hword]
  exact h

/-- A numeral is read to its end, as the number of its parts. -/
theorem readValue_text {limits : Limits} {room : Nat} {negative : Bool} {v : Value} (hx : x.Sound)
    (hr : Stops rest) (hv : numberOf limits negative x.whole x.part x.exponent = .ok v) :
    Gives (readValue limits room ((if negative then ['-'] else []) ++ (x.text ++ rest)))
      v rest := by
  have hword := @readWord?_text x rest hx negative
  have hnumber := readNumber_text hx hr hv
  obtain ⟨c, r, hfirst, hc⟩ := hx.exists_first
  cases negative with
  | true => exact readValue_number (by decide) hword hnumber
  | false =>
    have hother (d : Char) (hd : d.isDigit = false) : c ≠ d := (ne_of_isDigit hc hd).symm
    rw [Numeral.text, hfirst] at hword hnumber ⊢
    exact readValue_number ⟨hother _ rfl, hother _ rfl, hother _ rfl⟩ hword hnumber

/-! ### Integers -/

theorem exists_first_toDigits {n : Nat} (hn : n ≠ 0) :
    ∃ c r, Nat.toDigits 10 n = c :: r ∧ c ≠ '0' := by
  induction n using Nat.strongRecOn with
  | ind n ih =>
    rw [Nat.toDigits_eq_if (by decide)]
    split
    · have hsmall : ∀ m : Fin 10, m.val ≠ 0 → m.val.digitChar ≠ '0' := by decide
      exact ⟨_, [], rfl, hsmall ⟨n, ‹n < 10›⟩ hn⟩
    · obtain ⟨c, r, h, hc⟩ := ih (n / 10) (by omega) (by omega)
      exact ⟨c, r ++ [(n % 10).digitChar], by rw [h, List.cons_append], hc⟩

/-- The digits of a number. -/
def digitsOf (n : Nat) : Numeral := ⟨Nat.toDigits 10 n, [], none⟩

theorem sound_digitsOf (n : Nat) : (digitsOf n).Sound where
  whole _ := Nat.isDigit_of_mem_toDigits (by decide) (by decide)
  first := by
    by_cases hn : n = 0
    · exact .inl (by rw [hn]; rfl)
    · exact .inr (exists_first_toDigits hn)
  part _ h := nomatch h
  exponent _ h := nomatch h

theorem ofDigits_toDigits (n : Nat) : Double.ofDigits (Nat.toDigits 10 n) = n :=
  Nat.ofDigitChars_ten_toDigits

theorem encodeInt_eq (n : Int) :
    encodeInt n = (if decide (n < 0) then ['-'] else []) ++ (digitsOf n.natAbs).text := by
  have hrepr (m : Nat) : m.repr.toList = (digitsOf m).text := by
    rw [Nat.repr_eq_ofList_toDigits, String.toList_ofList]
    exact (List.append_nil _).symm
  cases n with
  | ofNat m => exact hrepr m
  | negSucc m =>
    refine String.toList_append.trans ?_
    rw [hrepr (m + 1), decide_eq_true (Int.negSucc_lt_zero m)]
    rfl

/-- An integer is read back, if so many digits are read. -/
theorem readValue_encodeInt {limits : Limits} {room : Nat} {n : Int}
    (hn : Double.decimalLength n.natAbs ≤ limits.digits) (hr : Stops rest) :
    Gives (readValue limits room (encodeInt n ++ rest)) (.int n) rest := by
  rw [encodeInt_eq, List.append_assoc]
  refine readValue_text (sound_digitsOf _) hr ?_
  have hsign : (if n < 0 then -(n.natAbs : Int) else n.natAbs) = n := by
    split <;> omega
  simp only [digitsOf, numberOf, ofDigits_toDigits, decide_eq_true_eq, hsign]
  exact if_neg (Nat.not_lt.mpr hn)

end Json

end RecordSql
