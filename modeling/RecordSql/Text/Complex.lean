import RecordSql.Text.Numeral

/-! Complex numbers: the texts that stand for them, and the texts that they are shown by. A number
has a real part, an imaginary part behind which a letter stands, or both, perhaps in brackets. -/

namespace RecordSql

/-- A complex number by its parts. -/
structure Complex where
  re : Double
  im : Double

namespace Complex

/-! ### Showing -/

/-- A floating-point number without the zero that makes it one. -/
def shortText (x : Double) : String :=
  let cs := (Double.Style.plain.text x).toList
  String.ofList (if ".0".toList.isSuffixOf cs then cs.take (cs.length - 2) else cs)

/-- The text of a complex number. A real part that is zero is left out. -/
def text (z : Complex) : String :=
  if z.re.isZero && !z.re.isNegative then shortText z.im ++ "j"
  else
    let sign := if z.im.isNegative && !z.im.isNaN then "" else "+"
    "(" ++ shortText z.re ++ sign ++ shortText z.im ++ "j)"

/-! ### Reading -/

def splitDigits (cs : List Char) : List Char × List Char :=
  (cs.takeWhile Char.isDigit, cs.dropWhile Char.isDigit)

/-- The exponent that a text begins with, if there is one, and the rest. -/
def splitExponent (cs : List Char) : List Char × List Char :=
  match cs with
  | e :: rest =>
    let (sign, rest) := match rest with
      | '-' :: rest => (['-'], rest)
      | '+' :: rest => ([], rest)
      | rest => ([], rest)
    let (digits, rest) := splitDigits rest
    if (e = 'e' || e = 'E') && !digits.isEmpty then ('e' :: sign ++ digits, rest) else ([], cs)
  | [] => ([], [])

/-- The words for numbers that are not finite, the longer ones first. -/
def words : List String := ["infinity", "inf", "nan"]

/-- The number without a sign that a text begins with, and the rest. -/
def readSize? (isNegative : Bool) (cs : List Char) : Option (Double × List Char) :=
  match words.find? fun s => s.toList.isPrefixOf (cs.map Char.toLower) with
  | some s =>
    let x := if s = "nan" then Double.nan 0 else Double.infinity isNegative
    some (x, cs.drop s.length)
  | none =>
    let (whole, cs) := splitDigits cs
    let (part, cs) := match cs with
      | '.' :: rest =>
        let (part, rest) := splitDigits rest
        if whole.isEmpty && part.isEmpty then ([], cs) else ('.' :: part, rest)
      | cs => ([], cs)
    let (power, cs) := splitExponent cs
    (Double.ofDecimalText? isNegative (whole ++ part ++ power)).map fun x => (x, cs)

/-- The number that a text begins with, and the rest. -/
def readDouble? (cs : List Char) : Option (Double × List Char) :=
  let (isNegative, cs) := Double.splitSign cs
  readSize? isNegative cs

/-- One, with a sign. -/
def unit (isNegative : Bool) : Double := Double.ofDecimal isNegative ⟨1, 0⟩

def behindLetter? : List Char → Option (List Char)
  | 'j' :: cs | 'J' :: cs => some cs
  | _ => none

/-- A number with a sign that a text begins with, or a sign alone for one, and the rest. -/
def readSigned? (cs : List Char) : Option (Double × List Char) :=
  match readDouble? cs, cs with
  | some found, _ => some found
  | none, '+' :: cs => some (unit false, cs)
  | none, '-' :: cs => some (unit true, cs)
  | none, _ => none

/-- The complex number that a text begins with, and the rest. -/
def read? (cs : List Char) : Option (Complex × List Char) :=
  let zero := Double.ofMagnitude false 0
  match readDouble? cs with
  | none => do
    let (im, cs) := (readSigned? cs).getD (unit false, cs)
    return (⟨zero, im⟩, ← behindLetter? cs)
  | some (x, cs) =>
    if cs.head? = some '+' || cs.head? = some '-' then do
      let (im, cs) ← readSigned? cs
      return (⟨x, im⟩, ← behindLetter? cs)
    else match behindLetter? cs with
      | some cs => some (⟨zero, x⟩, cs)
      | none => some (⟨x, zero⟩, cs)

/-- A text without single underscores between digits; there are no others. -/
def withoutMarks? : Bool → List Char → Option (List Char)
  | _, [] => some []
  | behindDigit, '_' :: c :: cs =>
    if behindDigit && c.isDigit then (c :: ·) <$> withoutMarks? true cs else none
  | _, c :: cs => if c = '_' then none else (c :: ·) <$> withoutMarks? c.isDigit cs

def ofText? (s : String) : Option Complex := do
  let blankless (cs : List Char) : List Char := cs.dropWhile Text.isBlankChar
  let cs := blankless (← withoutMarks? false s.toList)
  if cs.head? = some '(' then
    let (z, cs) ← read? (blankless (cs.drop 1))
    match blankless cs with
    | ')' :: cs => if (blankless cs).isEmpty then return z else none
    | _ => none
  else
    let (z, cs) ← read? cs
    if (blankless cs).isEmpty then return z else none

end Complex

end RecordSql
