/-! Code points of texts. A text can hold surrogates that stand alone, which are no characters, and
a character of an empty plane of Unicode stands in for each. The characters of a reserved run of
that plane are held as two characters each, a leading and a trailing one, so that different code
points are always held in different ways. Main statement: the characters that hold some code points
tell them. -/

namespace RecordSql.Text

/-- Whether a code point is one half of a character beyond the basic plane. -/
def isSurrogate (n : Nat) : Bool := 0xD800 ≤ n && n ≤ 0xDFFF

/-- How far surrogates are from the characters that stand in for them. -/
def surrogateShift : Nat := 0xD0000

/-! The reserved run: two leading characters, the trailing ones, and the characters that stand in
for surrogates. -/

def firstReserved : Nat := 0xDC7FE

def firstTrailing : Nat := 0xDC800

def trailingCount : Nat := 0x1000

def isReserved (n : Nat) : Bool := firstReserved ≤ n && n ≤ 0xDDFFF

def charsOf (n : Nat) : List Char :=
  if isSurrogate n then [Char.ofNat (n + surrogateShift)]
  else if isReserved n then
    let index := n - firstReserved
    [Char.ofNat (firstReserved + index / trailingCount),
      Char.ofNat (firstTrailing + index % trailingCount)]
  else [Char.ofNat n]

def opensPair (c : Char) : Bool := firstReserved ≤ c.toNat && c.toNat < firstTrailing

def codeOfPair (c d : Char) : Nat :=
  firstReserved + (c.toNat - firstReserved) * trailingCount + (d.toNat - firstTrailing)

def codeOf (c : Char) : Nat :=
  if isSurrogate (c.toNat - surrogateShift) then c.toNat - surrogateShift else c.toNat

def codesOf : List Char → List Nat
  | c :: d :: cs =>
    if opensPair c then codeOfPair c d :: codesOf cs else codeOf c :: codesOf (d :: cs)
  | [c] => [codeOf c]
  | [] => []

def codes (s : String) : List Nat := codesOf s.toList

def ofCodes (l : List Nat) : String := String.ofList (l.flatMap charsOf)

def ofChars (cs : List Char) : String := ofCodes (cs.map Char.toNat)

def length (s : String) : Nat := (codes s).length

def letters (s : String) : List String := (codes s).map fun n => ofCodes [n]

def isWhole (s : String) : Bool := !(codes s).any isSurrogate

/-! ### UTF-8 -/

def utf8Of (n : Nat) : List UInt8 :=
  let byte (lead shift : Nat) : UInt8 := UInt8.ofNat (lead + n / shift)
  let later (shift : Nat) : UInt8 := UInt8.ofNat (0x80 + n / shift % 64)
  if n < 0x80 then [byte 0 1]
  else if n < 0x800 then [byte 0xC0 64, later 1]
  else if n < 0x10000 then [byte 0xE0 4096, later 64, later 1]
  else [byte 0xF0 262144, later 4096, later 64, later 1]

def utf8 (s : String) : List UInt8 := (codes s).flatMap utf8Of

/-! ### Round trip -/

theorem toNat_ofNat {n : Nat} (h : n.isValidChar) : (Char.ofNat n).toNat = n := by
  rw [Char.ofNat, dif_pos h]
  rfl

theorem isSurrogate_iff {n : Nat} : isSurrogate n = true ↔ 0xD800 ≤ n ∧ n ≤ 0xDFFF := by
  simp only [isSurrogate, Bool.and_eq_true, decide_eq_true_eq]

theorem isReserved_iff {n : Nat} : isReserved n = true ↔ 0xDC7FE ≤ n ∧ n ≤ 0xDDFFF := by
  rw [isReserved, Bool.and_eq_true, decide_eq_true_eq, decide_eq_true_eq, firstReserved]

theorem opensPair_iff {c : Char} : opensPair c = true ↔ 0xDC7FE ≤ c.toNat ∧ c.toNat < 0xDC800 := by
  rw [opensPair, Bool.and_eq_true, decide_eq_true_eq, decide_eq_true_eq, firstReserved,
    firstTrailing]

theorem codesOf_cons {c : Char} (cs : List Char) (h : opensPair c = false) :
    codesOf (c :: cs) = codeOf c :: codesOf cs := by
  cases cs <;> simp [codesOf, h]

theorem codesOf_cons_cons {c d : Char} (cs : List Char) (h : opensPair c = true) :
    codesOf (c :: d :: cs) = codeOfPair c d :: codesOf cs := by
  simp [codesOf, h]

theorem codesOf_charsOf_append {n : Nat} (h : n < 0x110000) (cs : List Char) :
    codesOf (charsOf n ++ cs) = n :: codesOf cs := by
  by_cases hs : isSurrogate n = true
  · have hb := isSurrogate_iff.1 hs
    have ht : (Char.ofNat (n + surrogateShift)).toNat = n + 0xD0000 :=
      toNat_ofNat (Or.inr ⟨by rw [surrogateShift]; omega, by rw [surrogateShift]; omega⟩)
    have ho : opensPair (Char.ofNat (n + surrogateShift)) = false := by
      rw [← Bool.not_eq_true, opensPair_iff, ht]
      omega
    rw [charsOf, if_pos hs, List.singleton_append, codesOf_cons cs ho, codeOf, ht, surrogateShift,
      Nat.add_sub_cancel, if_pos hs]
  · have hn := mt isSurrogate_iff.2 hs
    by_cases hr : isReserved n = true
    · have hb := isReserved_iff.1 hr
      have hc : (Char.ofNat (firstReserved + (n - firstReserved) / trailingCount)).toNat =
          0xDC7FE + (n - 0xDC7FE) / 0x1000 :=
        toNat_ofNat (Or.inr ⟨by rw [firstReserved, trailingCount]; omega,
          by rw [firstReserved, trailingCount]; omega⟩)
      have hd : (Char.ofNat (firstTrailing + (n - firstReserved) % trailingCount)).toNat =
          0xDC800 + (n - 0xDC7FE) % 0x1000 :=
        toNat_ofNat (Or.inr ⟨by rw [firstTrailing]; omega,
          by rw [firstTrailing, firstReserved, trailingCount]; omega⟩)
      have ho : opensPair (Char.ofNat (firstReserved + (n - firstReserved) / trailingCount)) =
          true := by
        rw [opensPair_iff, hc]
        omega
      rw [charsOf, if_neg hs, if_pos hr, List.cons_append, List.singleton_append,
        codesOf_cons_cons cs ho]
      have hp : codeOfPair (Char.ofNat (firstReserved + (n - firstReserved) / trailingCount))
          (Char.ofNat (firstTrailing + (n - firstReserved) % trailingCount)) = n := by
        rw [codeOfPair, hc, hd, firstReserved, firstTrailing, trailingCount]
        omega
      rw [hp]
    · have hm := mt isReserved_iff.2 hr
      have ht : (Char.ofNat n).toNat = n := toNat_ofNat (by
        rcases Nat.lt_or_ge n 0xD800 with hl | hl
        · exact Or.inl hl
        · exact Or.inr ⟨by omega, h⟩)
      have ho : opensPair (Char.ofNat n) = false := by
        rw [← Bool.not_eq_true, opensPair_iff, ht]
        omega
      have hh : ¬isSurrogate (n - surrogateShift) = true := by
        rw [isSurrogate_iff, surrogateShift]
        omega
      rw [charsOf, if_neg hs, if_neg hr, List.singleton_append, codesOf_cons cs ho, codeOf, ht,
        if_neg hh]

/-- The characters that hold some code points tell them. -/
theorem codes_ofCodes {l : List Nat} (h : ∀ n ∈ l, n < 0x110000) : codes (ofCodes l) = l := by
  rw [codes, ofCodes, String.toList_ofList]
  induction l with
  | nil => rfl
  | cons n l ih =>
    rw [List.flatMap_cons, codesOf_charsOf_append (h n (by simp)),
      ih fun m hm => h m (by simp [hm])]

end RecordSql.Text
