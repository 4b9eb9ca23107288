import RecordSql.Proofs.Json.Numbers

/-! Floating-point numbers inside structured texts. The text of a finite number is a sign and a
numeral with a point or an exponent. Main statement: a structured text gives such a number back
wherever its text does so elsewhere. -/

namespace RecordSql

namespace Double

variable {x : Numeral}

/-- The text of an exponent is empty, or it is read as the sign and the digits that move the
point. -/
theorem exponentText_cases (hx : x.Sound) :
    (Numeral.exponentText x.exponent = [] ∧ x.shift = 0) ∨
      ∃ r down ds, Numeral.exponentText x.exponent = 'e' :: r ∧ splitSign r = (down, ds) ∧
        (ds.isEmpty || !ds.all Char.isDigit) = false ∧
        x.shift = if down then -(ofDigits ds : Int) else ofDigits ds := by
  rw [Numeral.shift]
  cases he : x.exponent with
  | none => exact .inl ⟨rfl, rfl⟩
  | some e =>
    obtain ⟨hne, hd⟩ := hx.exponent e he
    obtain ⟨down, ds⟩ := e
    refine .inr ⟨_, down, ds, rfl, ?_, ?_, rfl⟩
    · cases down <;> rfl
    · rw [List.isEmpty_eq_false_iff.mpr hne, List.all_eq_true.mpr hd]
      rfl

/-- A numeral stands for the same number outside structured texts. -/
theorem ofDecimalText?_text (negative : Bool) (hx : x.Sound) :
    ofDecimalText? negative x.text =
      some (ofDecimal negative (decimal x.whole x.part x.shift)) := by
  have hwhole := Json.splitDigits_append hx.whole (@Json.head_part x [] nofun)
  rw [List.append_nil, Json.splitDigits, Prod.mk.injEq] at hwhole
  obtain ⟨c, r, hfirst, hc⟩ := hx.exists_first
  have hne : x.whole.isEmpty = false := by rw [hfirst]; rfl
  simp only [ofDecimalText?, Numeral.text, hwhole.1, hwhole.2, hne, Bool.false_and]
  cases hp : x.part with
  | nil =>
    obtain ⟨htext, hshift⟩ | ⟨r, down, ds, htext, hsign, hds, hshift⟩ := exponentText_cases hx
    · simp [htext, hshift]
    · simp [htext, hshift, hsign, hds]
  | cons c r =>
    have hpart : Json.splitDigits (c :: (r ++ Numeral.exponentText x.exponent)) =
        (c :: r, Numeral.exponentText x.exponent) :=
      Json.splitDigits_append (hp ▸ hx.part) fun c hc =>
        (@Json.head_exponentText x [] nofun c (by rwa [List.append_nil])).1
    rw [Json.splitDigits, Prod.mk.injEq] at hpart
    simp only [List.isEmpty_cons, Bool.false_eq_true, if_false, List.cons_append, hpart.1, hpart.2]
    obtain ⟨htext, hshift⟩ | ⟨r, down, ds, htext, hsign, hds, hshift⟩ := exponentText_cases hx
    · simp [htext, hshift]
    · simp [htext, hshift, hsign, hds]

/-- The numeral of a decimal in a style. -/
def Style.numeral (style : Style) (d : Decimal) : Numeral :=
  let ds := Nat.toDigits 10 d.digits
  let place : Int := ds.length + d.exponent
  if style.least ≤ place ∧ place ≤ style.most then
    if place ≤ 0 then ⟨['0'], List.replicate (-place).toNat '0' ++ ds, none⟩
    else if (ds.length : Int) ≤ place then
      ⟨ds ++ List.replicate (place - ds.length).toNat '0', ['0'], none⟩
    else ⟨ds.take place.toNat, ds.drop place.toNat, none⟩
  else
    ⟨ds.take 1, ds.drop 1,
      some (decide (place - 1 < 0), padded style.exponentWidth (place - 1).natAbs)⟩

variable {style : Style} {d : Decimal}

theorem text_numeral : (style.numeral d).text = style.write d := by
  have hne := Nat.toDigits_ne_nil (n := d.digits) (b := 10)
  have htake (n : Int) (h : 0 < n) (h' : n < (Nat.toDigits 10 d.digits).length) :
      n.toNat < (Nat.toDigits 10 d.digits).length := by omega
  simp only [Style.numeral, Style.write]
  split_ifs <;> simp_all [Numeral.text, Numeral.exponentText]

theorem isDigit_replicate (n : Nat) : ∀ c ∈ List.replicate n '0', c.isDigit = true := fun c hc => by
  rw [List.eq_of_mem_replicate hc]; rfl

theorem isDigit_append {l m : List Char} (hl : ∀ c ∈ l, c.isDigit = true)
    (hm : ∀ c ∈ m, c.isDigit = true) : ∀ c ∈ l ++ m, c.isDigit = true := fun c hc =>
  (List.mem_append.mp hc).elim (hl c) (hm c)

/-- Zero has no digits to be moved. -/
theorem sound_numeral (hd : d.digits ≠ 0 ∨ d.exponent = 0) : (style.numeral d).Sound := by
  have hzero : ∀ c ∈ ['0'], c.isDigit = true := List.forall_mem_singleton.mpr rfl
  have hdigits (n : Nat) : ∀ c ∈ Nat.toDigits 10 n, c.isDigit = true :=
    (Json.sound_digitsOf n).whole
  have hfirst : Nat.toDigits 10 d.digits = ['0'] ∧ d.exponent = 0 ∨
      ∃ c r, Nat.toDigits 10 d.digits = c :: r ∧ c ≠ '0' := by
    by_cases h : d.digits = 0
    · exact .inl ⟨by rw [h]; rfl, hd.resolve_left fun hne => hne h⟩
    · exact .inr (Json.exists_first_toDigits h)
  simp only [Style.numeral]
  split_ifs with hstyle hsmall hlarge
  · exact ⟨hzero, .inl rfl, isDigit_append (isDigit_replicate _) (hdigits _), nofun⟩
  · refine ⟨isDigit_append (hdigits _) (isDigit_replicate _), ?_, hzero, nofun⟩
    rcases hfirst with ⟨h, he⟩ | ⟨c, r, h, hc⟩
    · rw [h, he]
      exact .inl rfl
    · rw [h]
      exact .inr ⟨c, _, rfl, hc⟩
  · refine ⟨fun c hc => hdigits _ c (List.mem_of_mem_take hc), ?_,
      fun c hc => hdigits _ c (List.mem_of_mem_drop hc), nofun⟩
    rcases hfirst with ⟨h, he⟩ | ⟨c, r, h, hc⟩
    · rw [h, he] at hsmall hlarge
      exact absurd hlarge (by decide)
    · rw [h] at hsmall ⊢
      obtain ⟨n, hn⟩ : ∃ n, ((c :: r).length + d.exponent).toNat = n + 1 :=
        Nat.exists_eq_add_one.mpr (by omega)
      rw [hn]
      exact .inr ⟨c, _, rfl, hc⟩
  · refine ⟨fun c hc => hdigits _ c (List.mem_of_mem_take hc), ?_,
      fun c hc => hdigits _ c (List.mem_of_mem_drop hc), ?_⟩
    · rcases hfirst with ⟨h, he⟩ | ⟨c, r, h, hc⟩
      · rw [h]
        exact .inl rfl
      · rw [h]
        exact .inr ⟨c, [], rfl, hc⟩
    · rintro _ ⟨⟩
      refine ⟨?_, isDigit_append (isDigit_replicate _) (hdigits _)⟩
      rw [padded, ne_eq, List.append_eq_nil_iff]
      exact fun h => Nat.toDigits_ne_nil h.2

theorem numeral_pointed :
    (style.numeral d).part ≠ [] ∨ (style.numeral d).exponent ≠ none := by
  simp only [Style.numeral]
  split_ifs with hstyle hsmall hlarge
  · exact .inl fun h => Nat.toDigits_ne_nil (List.append_eq_nil_iff.mp h).2
  · exact .inl (List.cons_ne_nil _ _)
  · refine .inl fun h => hlarge ?_
    have hlength := List.drop_eq_nil_iff.mp h
    omega
  · exact .inr (Option.some_ne_none _)

theorem digits_trim {digits : Nat} (h : digits ≠ 0) (exponent : Int) (fuel : Nat) :
    (trim digits exponent fuel).digits ≠ 0 := by
  induction fuel generalizing digits exponent with
  | zero => exact h
  | succ fuel ih =>
    rw [trim]
    split
    · exact ih (by omega) _
    · exact h

theorem onGrid?_ne_zero {i : Interval} (hlow : i.low ≠ 0) {e : Int} {n : Nat}
    (h : i.onGrid? e = some n) : n ≠ 0 := by
  have hzero : i.contains 0 (Nat.pow 10 (-e).toNat) = false := by
    have hpos : 0 < i.low * Nat.pow 10 (-e).toNat :=
      Nat.mul_pos (Nat.pos_of_ne_zero hlow) (Nat.pow_pos (by decide))
    rw [Interval.contains, Nat.zero_mul, decide_eq_false (Nat.not_le.mpr hpos),
      decide_eq_false (Nat.not_lt_zero _)]
    cases i.closed <;> rfl
  -- A neighbour that is zero would lie inside.
  have hfloor (hin : i.contains (i.mid * Nat.pow 10 (-e).toNat / (i.den * Nat.pow 10 e.toNat) *
      Nat.pow 10 e.toNat) (Nat.pow 10 (-e).toNat) = true) :
      i.mid * Nat.pow 10 (-e).toNat / (i.den * Nat.pow 10 e.toNat) ≠ 0 := by
    intro hf
    rw [hf, Nat.zero_mul, hzero] at hin
    cases hin
  simp only [Interval.onGrid?] at h
  split at h
  · rename_i hin _
    obtain rfl := Option.some.inj h
    split
    · exact hfloor hin
    · exact Nat.succ_ne_zero _
  · rename_i hin _
    obtain rfl := Option.some.inj h
    exact hfloor hin
  · obtain rfl := Option.some.inj h
    exact Nat.succ_ne_zero _
  · cases h

theorem mantissa_ne_zero {x : Double} (hx : x.isZero = false) : x.mantissa ≠ 0 := by
  have hx : x.magnitude ≠ 0 := by simpa [isZero] using hx
  have hparts : fullMantissa * x.biased + x.fraction = x.magnitude := Nat.div_add_mod _ _
  rw [mantissa]
  split
  · rename_i hb
    rw [hb, Nat.mul_zero, Nat.zero_add] at hparts
    exact hparts ▸ hx
  · exact Nat.ne_of_gt (Nat.add_pos_right _ (by decide))

/-- The shortest decimal of a number that is not zero is not zero, if it is found. -/
theorem shortest_ne_zero {x : Double} (hx : x.isZero = false) :
    x.shortest.digits ≠ 0 ∨ x.shortest.exponent = 0 := by
  have hlow : x.interval.low ≠ 0 := by
    have hm := mantissa_ne_zero hx
    have hpow : Nat.pow 2 (x.exponent - 2).toNat ≠ 0 := Nat.ne_of_gt (Nat.pow_pos (by decide))
    refine Nat.mul_ne_zero ?_ hpow
    split <;> omega
  simp only [shortest]
  cases hhit : (List.range 17).findSome? fun n => (x.interval.onGrid? _).map fun digits => _ with
  | none => exact .inr rfl
  | some d =>
    obtain ⟨n, -, hn⟩ := List.exists_of_findSome?_eq_some hhit
    obtain ⟨digits, hgrid, rfl⟩ := Option.map_eq_some_iff.mp hn
    exact .inl (digits_trim (onGrid?_ne_zero hlow hgrid) _ _)

/-- The numeral of a finite number, without its sign. -/
def numeral (x : Double) : Numeral :=
  if x.isZero then ⟨['0'], ['0'], none⟩ else Style.plain.numeral x.shortest

theorem sound_numeral_of_double (x : Double) :
    x.numeral.Sound ∧ (x.numeral.part ≠ [] ∨ x.numeral.exponent ≠ none) := by
  rw [numeral]
  split
  · have hzero : ∀ c ∈ ['0'], c.isDigit = true := List.forall_mem_singleton.mpr rfl
    exact ⟨⟨hzero, .inl rfl, hzero, nofun⟩, .inl (List.cons_ne_nil _ _)⟩
  · exact ⟨sound_numeral (shortest_ne_zero (Bool.eq_false_iff.mpr ‹_›)), numeral_pointed⟩

/-- Both styles write a finite number as its sign and its numeral. -/
theorem text_of_isFinite {x : Double} (hx : x.isFinite = true) :
    (Style.plain.text x).toList = (if x.isNegative then ['-'] else []) ++ x.numeral.text ∧
      (Style.structured.text x).toList =
        (if x.isNegative then ['-'] else []) ++ x.numeral.text := by
  have hlt : x.magnitude < infinite := by simpa [isFinite] using hx
  have hnan : x.isNaN = false := by simpa [isNaN] using Nat.le_of_lt hlt
  have hinf : x.isInfinite = false := by simpa [isInfinite] using Nat.ne_of_lt hlt
  have hbody : (if x.isZero then ['0', '.', '0'] else Style.plain.write x.shortest) =
      x.numeral.text := by
    rw [numeral]
    split
    · rfl
    · exact text_numeral.symm
  have hstyle : Style.structured.write = Style.plain.write := rfl
  constructor <;>
    simp only [Style.text, hnan, hinf, Bool.false_eq_true, if_false, hstyle, hbody,
      String.toList_ofList]

/-- A finite number is what its numeral stands for, if its text reads back. -/
theorem ofDecimal_numeral {x : Double} (hx : x.isFinite = true)
    (hback : ofText? 0 (Style.plain.text x) = some x) :
    ofDecimal x.isNegative (decimal x.numeral.whole x.numeral.part x.numeral.shift) = x := by
  obtain ⟨hsound, -⟩ := sound_numeral_of_double x
  obtain ⟨c, r, hfirst, hc⟩ := hsound.exists_first
  have hother (d : Char) (hd : d.isDigit = false) : c ≠ d := (Json.ne_of_isDigit hc hd).symm
  have hsign : splitSign ((if x.isNegative then ['-'] else []) ++ x.numeral.text) =
      (x.isNegative, x.numeral.text) := by
    cases x.isNegative with
    | true => rfl
    | false =>
      rw [Numeral.text, hfirst]
      exact splitSign.eq_3 _ (fun _ h => hother '-' rfl (List.cons.inj h).1)
        fun _ h => hother '+' rfl (List.cons.inj h).1
  rw [ofText?, (text_of_isFinite hx).1, hsign] at hback
  have hnan : x.numeral.text ≠ "nan".toList := by
    rw [Numeral.text, hfirst]
    exact fun h => hother 'n' rfl (List.cons.inj h).1
  have hinf : x.numeral.text ≠ "inf".toList := by
    rw [Numeral.text, hfirst]
    exact fun h => hother 'i' rfl (List.cons.inj h).1
  dsimp only at hback
  rw [if_neg hnan, if_neg hinf, ofDecimalText?_text _ hsound] at hback
  exact Option.some.inj hback

end Double

namespace Json

variable {rest : List Char}

theorem numberOf_pointed (limits : Limits) (negative : Bool) {x : Numeral}
    (hx : x.part ≠ [] ∨ x.exponent ≠ none) :
    numberOf limits negative x.whole x.part x.exponent =
      .ok (.float (Double.ofDecimal negative (Double.decimal x.whole x.part x.shift))) := by
  unfold numberOf
  split
  · rename_i hp he
    exact hx.elim (absurd hp) (absurd he)
  · rfl

/-- A finite number is read back, if its text reads back elsewhere. -/
theorem readValue_encodeFloat {limits : Limits} {room : Nat} {x : Double} (hx : x.isFinite = true)
    (hback : Double.ofText? 0 (Double.Style.plain.text x) = some x) (hr : Stops rest) :
    Gives (readValue limits room (encodeFloat x ++ rest)) (.float x) rest := by
  obtain ⟨hsound, hpointed⟩ := Double.sound_numeral_of_double x
  rw [encodeFloat, (Double.text_of_isFinite hx).2, List.append_assoc]
  refine readValue_text hsound hr ?_
  rw [numberOf_pointed limits _ hpointed, Double.ofDecimal_numeral hx hback]

end Json

end RecordSql
