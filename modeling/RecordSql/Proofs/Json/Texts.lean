import Mathlib.Tactic.SplitIfs
import RecordSql.Json.Decode
import RecordSql.Json.Encode

/-! Texts inside structured texts. Main statement: a text of characters is read back from its
encoded form, whatever follows the closing quote. -/

namespace RecordSql.Json

/-- A reader that gives a value and leaves the rest. -/
def Gives {α : Type} {s : List Char} (r : Except Problem (Read α s)) (a : α) (rest : List Char) :
    Prop :=
  ∃ read, r = .ok read ∧ read.value = a ∧ read.rest = rest

theorem gives_ok {α : Type} {s : List Char} {a : α} {rest : List Char}
    (h : rest.length < s.length) :
    Gives (.ok ⟨a, rest, h⟩ : Except Problem (Read α s)) a rest := ⟨_, rfl, rfl, rfl⟩

/-! ### Escapes -/

theorem hexValue?_hexDigit {n : Nat} (h : n < 16) : Text.hexValue? (Text.hexDigit n) = some n := by
  have hall : ∀ n : Fin 16, Text.hexValue? (Text.hexDigit n) = some n.val := by decide
  exact hall ⟨n, h⟩

/-- A unit of sixteen bits is read from its four digits, if anything follows. -/
theorem readUnit?_hexDigits {n : Nat} (h : n < 0x10000) (c : Char) (r : List Char) :
    readUnit? (Text.hexDigits 4 n ++ c :: r) = some (n, c :: r) := by
  have hdigit (m : Nat) : Text.hexValue? (Text.hexDigit (m % 16)) = some (m % 16) :=
    hexValue?_hexDigit (Nat.mod_lt m (by decide))
  have hsum : ((n / 16 / 16 / 16 % 16 * 16 + n / 16 / 16 % 16) * 16 + n / 16 % 16) * 16 + n % 16 =
      n := by omega
  simp [Text.hexDigits, readUnit?, hdigit, hsum]

theorem length_hexDigits (width n : Nat) : (Text.hexDigits width n).length = width := by
  induction width generalizing n with
  | zero => rfl
  | succ width ih => rw [Text.hexDigits, List.length_append, ih, List.length_singleton]

/-- An escape that opens no pair. -/
theorem readCode_hexDigits {n : Nat} (h : n < 0x10000) (hn : isHigh n = false) (c : Char)
    (r : List Char) :
    Gives (readCode (Text.hexDigits 4 n ++ c :: r)) (Text.charsOf n) (c :: r) := by
  have hunit := readUnit?_hexDigits h c r
  rw [readCode]
  split
  · rename_i hnone
    rw [hunit] at hnone
    cases hnone
  · rename_i heq
    rw [hunit] at heq
    cases heq
    rw [hn]
    exact gives_ok _

theorem isHigh_iff {n : Nat} : isHigh n = true ↔ 0xD800 ≤ n ∧ n ≤ 0xDBFF := by
  rw [isHigh, Bool.and_eq_true, decide_eq_true_eq, decide_eq_true_eq]

theorem isLow_iff {n : Nat} : isLow n = true ↔ 0xDC00 ≤ n ∧ n ≤ 0xDFFF := by
  rw [isLow, Bool.and_eq_true, decide_eq_true_eq, decide_eq_true_eq]

/-- Two escapes that are a pair. -/
theorem readCode_pair {high low : Nat} (hhigh : isHigh high = true) (hlow : isLow low = true)
    (c : Char) (r : List Char) :
    Gives (readCode (Text.hexDigits 4 high ++ (escapeUnit low ++ c :: r)))
      (Text.charsOf (Text.joinPair high low)) (c :: r) := by
  have hfirst := readUnit?_hexDigits (n := high) (by rw [isHigh_iff] at hhigh; omega) '\\'
    ('u' :: (Text.hexDigits 4 low ++ c :: r))
  have hsecond := readUnit?_hexDigits (n := low) (by rw [isLow_iff] at hlow; omega) c r
  have hlength : ¬(Text.hexDigits 4 low ++ c :: r).length ≤ 4 := by
    rw [List.length_append, length_hexDigits, List.length_cons]
    omega
  rw [escapeUnit, List.cons_append, List.cons_append, readCode]
  split
  · rename_i hnone
    rw [hfirst] at hnone
    cases hnone
  · rename_i heq
    rw [hfirst] at heq
    cases heq
    rw [if_pos hhigh]
    -- Behind the first escape there is a second one.
    show Gives (ite _ _ _) _ _
    rw [if_neg hlength]
    split
    · rename_i hnone
      rw [hsecond] at hnone
      cases hnone
    · rename_i heq
      rw [hsecond] at heq
      cases heq
      rw [if_pos hlow]
      exact gives_ok _

/-- An escape inside a text. -/
theorem readText_escape {start : Nat} {r held t cs rest : List Char}
    (hr : Gives (readEscape start r) held t) (h : Gives (readText start t) cs rest) :
    Gives (readText start ('\\' :: r)) (held ++ cs) rest := by
  obtain ⟨⟨held, t, hlt⟩, hr, rfl, rfl⟩ := hr
  obtain ⟨⟨cs, rest, hlt'⟩, h, rfl, rfl⟩ := h
  rw [readText]
  simp only [hr, h]
  exact gives_ok _

/-- A character that stands for itself. -/
theorem readText_plain {start : Nat} {c : Char} {s cs rest : List Char} (hquote : c ≠ '"')
    (hbackslash : c ≠ '\\') (hc : 32 ≤ c.toNat) (h : Gives (readText start s) cs rest) :
    Gives (readText start (c :: s)) (c :: cs) rest := by
  obtain ⟨⟨cs, rest, hlt⟩, h, rfl, rfl⟩ := h
  rw [readText]
  · simp only [Nat.not_lt.mpr hc, if_false, h]
    exact gives_ok _
  · exact hquote
  · exact hbackslash

/-! ### Characters -/

/-- Whether a code point is a character. -/
def IsScalar (n : Nat) : Prop := n < 0x110000 ∧ Text.isSurrogate n = false

/-- The letters that escape characters, each with its character. -/
def shortEscapes : List (Char × Char) :=
  [('"', '"'), ('\\', '\\'), ('n', '\n'), ('r', '\r'), ('t', '\t'), ('f', '\x0c'), ('b', '\x08')]

/-- The ways to write a code point. -/
inductive Spelling (n : Nat) : List Char → Prop
  | short {letter : Char} (h : (letter, Char.ofNat n) ∈ shortEscapes) : Spelling n ['\\', letter]
  | plain (h : 32 ≤ n) (h' : n < 127) (hquote : Char.ofNat n ≠ '"')
      (hbackslash : Char.ofNat n ≠ '\\') : Spelling n [Char.ofNat n]
  | unit (h : n < 0x10000) : Spelling n (escapeUnit n)
  | pair (h : 0x10000 ≤ n) : Spelling n
      (escapeUnit (0xD800 + (n - 0x10000) / 0x400) ++ escapeUnit (0xDC00 + n % 0x400))

theorem spelling_encodeCode (n : Nat) : Spelling n (encodeCode n) := by
  have hshort {letter c : Char} (h : Char.ofNat n = c) (hm : (letter, c) ∈ shortEscapes) :
      Spelling n ['\\', letter] := .short (h ▸ hm)
  simp only [encodeCode]
  split_ifs with hquote hbackslash hfeed hreturn htab hform hback hplain hunit
  · exact hshort hquote (by decide)
  · exact hshort hbackslash (by decide)
  · exact hshort hfeed (by decide)
  · exact hshort hreturn (by decide)
  · exact hshort htab (by decide)
  · exact hshort hform (by decide)
  · exact hshort hback (by decide)
  · rw [Bool.and_eq_true, decide_eq_true_eq, decide_eq_true_eq] at hplain
    exact .plain hplain.1 hplain.2 hquote hbackslash
  · exact .unit hunit
  · exact .pair (Nat.le_of_not_lt hunit)

/-- A letter that escapes a character. -/
theorem readEscape_short (start : Nat) {letter c : Char} (h : (letter, c) ∈ shortEscapes)
    (r : List Char) : Gives (readEscape start (letter :: r)) [c] r := by
  simp only [shortEscapes, List.mem_cons, Prod.mk.injEq, List.not_mem_nil, or_false] at h
  rcases h with ⟨rfl, rfl⟩ | ⟨rfl, rfl⟩ | ⟨rfl, rfl⟩ | ⟨rfl, rfl⟩ | ⟨rfl, rfl⟩ | ⟨rfl, rfl⟩ |
    ⟨rfl, rfl⟩ <;> exact gives_ok _

/-- A character is held as it is, unless it is one of the reserved ones. -/
theorem charsOf_of_lt {n : Nat} (h : n < 0xD800) : Text.charsOf n = [Char.ofNat n] := by
  have hs : ¬Text.isSurrogate n = true := by rw [Text.isSurrogate_iff]; omega
  have hr : ¬Text.isReserved n = true := by rw [Text.isReserved_iff]; omega
  rw [Text.charsOf, if_neg hs, if_neg hr]

theorem readEscape_code {start : Nat} {s held t : List Char} (h : Gives (readCode s) held t) :
    Gives (readEscape start ('u' :: s)) held t := by
  obtain ⟨⟨held, t, hlt⟩, h, rfl, rfl⟩ := h
  simp only [readEscape, h]
  exact gives_ok _

namespace IsScalar

variable {n : Nat}

theorem toNat_ofNat (h : IsScalar n) : (Char.ofNat n).toNat = n := by
  obtain ⟨hlt, hs⟩ := h
  have hs := mt Text.isSurrogate_iff.mpr (Bool.eq_false_iff.mp hs)
  refine Text.toNat_ofNat ?_
  rcases Nat.lt_or_ge n 0xD800 with hl | hl
  · exact .inl hl
  · exact .inr ⟨by omega, hlt⟩

theorem not_isHigh (h : IsScalar n) : isHigh n = false := by
  have hs := mt Text.isSurrogate_iff.mpr (Bool.eq_false_iff.mp h.2)
  rw [Bool.eq_false_iff, ne_eq, isHigh_iff]
  omega

/-- The two halves of a character beyond the basic plane. -/
theorem readCode_halves (h : IsScalar n) (hn : 0x10000 ≤ n) (c : Char) (r : List Char) :
    Gives (readCode (Text.hexDigits 4 (0xD800 + (n - 0x10000) / 0x400) ++
      (escapeUnit (0xDC00 + n % 0x400) ++ c :: r))) (Text.charsOf n) (c :: r) := by
  have hlt := h.1
  have hjoin : Text.joinPair (0xD800 + (n - 0x10000) / 0x400) (0xDC00 + n % 0x400) = n := by
    unfold Text.joinPair
    omega
  have hpair := @readCode_pair (0xD800 + (n - 0x10000) / 0x400) (0xDC00 + n % 0x400)
    (isHigh_iff.mpr (by omega)) (isLow_iff.mpr (by omega)) c r
  rwa [hjoin] at hpair

end IsScalar

/-- A character before what else there is up to the closing quote. -/
theorem readText_encodeCode {n : Nat} (hn : IsScalar n) {start : Nat} {s cs rest : List Char}
    (h : Gives (readText start s) cs rest) :
    Gives (readText start (encodeCode n ++ s)) (Text.charsOf n ++ cs) rest := by
  obtain ⟨c, r, rfl⟩ : ∃ c r, s = c :: r := by
    cases s with
    | nil => rw [readText] at h; obtain ⟨_, h, -⟩ := h; cases h
    | cons c r => exact ⟨c, r, rfl⟩
  have hnat := hn.toNat_ofNat
  generalize hp : encodeCode n = p
  cases hp ▸ spelling_encodeCode n with
  | @short letter hm =>
    have hsmall : ∀ e ∈ shortEscapes, e.2.toNat < 128 := by decide
    have hlt : n < 128 := hnat ▸ hsmall _ hm
    rw [charsOf_of_lt (by omega)]
    exact readText_escape (readEscape_short start hm (c :: r)) h
  | plain h32 h127 hquote hbackslash =>
    rw [charsOf_of_lt (by omega)]
    exact readText_plain hquote hbackslash (by rw [hnat]; exact h32) h
  | unit hunit =>
    exact readText_escape (readEscape_code (readCode_hexDigits hunit hn.not_isHigh c r)) h
  | pair hpair =>
    rw [List.append_assoc]
    exact readText_escape (readEscape_code (hn.readCode_halves hpair c r)) h

theorem readText_encoded {l : List Nat} (hl : ∀ n ∈ l, IsScalar n) (start : Nat)
    (rest : List Char) :
    Gives (readText start (l.flatMap encodeCode ++ '"' :: rest)) (l.flatMap Text.charsOf) rest := by
  induction l with
  | nil =>
    rw [List.flatMap_nil, List.nil_append, readText]
    exact gives_ok _
  | cons n l ih =>
    rw [List.flatMap_cons, List.append_assoc, List.flatMap_cons]
    exact readText_encodeCode (hl n List.mem_cons_self)
      (ih fun m hm => hl m (List.mem_cons_of_mem n hm))

/-- A text of characters and what follows it. -/
theorem encodeText_append {l : List Nat} (hl : ∀ n ∈ l, IsScalar n) (rest : List Char) :
    encodeText (Text.ofCodes l) ++ rest = '"' :: (l.flatMap encodeCode ++ '"' :: rest) := by
  rw [encodeText, Text.codes_ofCodes fun n hn => (hl n hn).1, List.cons_append, List.cons_append,
    List.append_assoc, List.singleton_append]

/-- A value that is a text. -/
theorem readValue_quote {limits : Limits} {room : Nat} {r cs rest : List Char}
    (h : Gives (readText (r.length + 1) r) cs rest) :
    Gives (readValue limits room ('"' :: r)) (.text (String.ofList cs)) rest := by
  obtain ⟨⟨cs, rest, hlt⟩, h, rfl, rfl⟩ := h
  rw [readValue]
  simp only [h]
  exact gives_ok _

end RecordSql.Json
