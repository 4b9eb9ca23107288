import RecordSql.Double.Text
import RecordSql.Text.Blank

/-! Numerals: the numbers that texts stand for, with blanks around them and underscores between
their digits. -/

namespace RecordSql.Text

/-- White space that may stand around a value: blank characters apart from the separators among the
controls. -/
def isSpaceChar (c : Char) : Bool := isBlankChar c && !(28 ≤ c.toNat && c.toNat ≤ 31)

/-- A text without the white space around it. -/
def trimmed (cs : List Char) : List Char :=
  ((cs.dropWhile isSpaceChar).reverse.dropWhile isSpaceChar).reverse

/-- Whether two underscores stand side by side. -/
def hasDoubleMark : List Char → Bool
  | '_' :: '_' :: _ => true
  | _ :: cs => hasDoubleMark cs
  | [] => false

/-- A text without underscores, which have to stand alone and inside it. -/
def withoutMarks? (cs : List Char) : Option (List Char) :=
  if cs.head? = some '_' || cs.getLast? = some '_' || hasDoubleMark cs then none
  else some (cs.filter (· ≠ '_'))

/-! ### Integers -/

def isLeadingDigit (c : Char) : Bool := c.isDigit && c ≠ '0'

/-- What follows zeros, and underscores between them, of which the last is given. -/
def behindZeros? (last : Char) : List Char → Option (List Char)
  | [] => some [last]
  | c :: cs =>
    if c = '0' || c = '_' then behindZeros? c cs
    else if isLeadingDigit c || c = '-' then some (c :: cs)
    else if c = '.' then some (last :: c :: cs)
    else none

def withoutZeros? : List Char → Option (List Char)
  | '0' :: cs => behindZeros? '0' cs
  | c :: cs => if isLeadingDigit c then some (c :: cs) else none
  | [] => none

def withoutPoint (cs : List Char) : List Char :=
  match cs.dropWhile (· ≠ '.') with
  | _ :: '0' :: part => if part.all (· = '0') then cs.takeWhile (· ≠ '.') else cs
  | _ => cs

/-- The digits of an integer behind its sign, which may have another one in front, as they are left
of a text. -/
def integralPart? (s : String) : Option (List Char) := do
  let (isNegative, cs) := match trimmed s.toList with
    | '-' :: cs => (true, cs)
    | '+' :: cs => (false, cs)
    | cs => (false, cs)
  let cs := withoutPoint (← withoutZeros? cs)
  let cs := (withoutMarks? cs).getD cs
  return if isNegative then '-' :: cs else cs

/-- What is wrong with the text of an integer: it is too long, or it is none. -/
inductive IntProblem where
  | size
  | form

/-- How many digits an integer may have, with its sign. -/
def digitRoom : Nat := 4300

/-- The integer of some digits behind a sign. -/
def signedInt (cs : List Char) : Except IntProblem Int :=
  let (isNegative, digits) := match cs with
    | '-' :: cs => (true, cs)
    | cs => (false, cs)
  let whole := digits.takeWhile Char.isDigit
  if digitRoom < cs.length - digits.length + whole.length then .error .size
  else if whole.isEmpty || whole.length < digits.length then .error .form
  else if whole.head? = some '0' && whole ≠ ['0'] then .error .form
  else
    let n : Int := Double.ofDigits whole
    .ok (if isNegative then -n else n)

/-- The integer that a text stands for. -/
def readInt (s : String) : Except IntProblem Int :=
  (integralPart? s).elim (.error .form) signedInt

/-! ### Floating-point numbers -/

/-- The floating-point number that a text without underscores stands for. -/
def plainDouble? (cs : List Char) : Option Double :=
  let word := String.ofList (cs.map Char.toLower)
  let word := if ["infinity", "+infinity", "-infinity"].contains word then
    String.ofList (word.toList.take (word.length - 5)) else word
  Double.ofText? 0 word

/-- The floating-point number that a text stands for. A text with underscores is not trimmed. -/
def double? (s : String) : Option Double :=
  (plainDouble? (trimmed s.toList)).or ((withoutMarks? s.toList).bind plainDouble?)

end RecordSql.Text
