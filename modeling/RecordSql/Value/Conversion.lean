import RecordSql.Text.Complex
import RecordSql.Value.Calculation

/-! Turning values into numbers, as the classes of numbers do: texts with blanks around them, and
numbers of another kind. A number loses the part of it that is no integer. -/

namespace RecordSql.Value

/-! ### Numerals -/

/-- The digit that a letter or a figure is, to a base of up to thirty-six. -/
def digit? (c : Char) : Option Nat :=
  if c.isDigit then some (c.toNat - 48)
  else if c.isAlpha then some (c.toLower.toNat - 87)
  else none

/-- The letters for bases other than ten, of which one stands behind a zero. -/
def baseLetters : List (Char × Nat) := [('x', 16), ('o', 8), ('b', 2)]

/-- The base of a numeral, which may be left open, and the numeral without the mark for its base. -/
def basedNumeral (base : Nat) (cs : List Char) : Nat × List Char :=
  match cs with
  | '0' :: c :: rest => match baseLetters.lookup c.toLower with
    | some b =>
      if base = 0 || base = b then (b, if rest.head? = some '_' then rest.drop 1 else rest)
      else (base, cs)
    | none => (if base = 0 then 10 else base, cs)
  | cs => (if base = 0 then 10 else base, cs)

def withoutBlanks (cs : List Char) : List Char :=
  ((cs.dropWhile Text.isBlankChar).reverse.dropWhile Text.isBlankChar).reverse

/-- The integer of a numeral. One whose base is left open begins with no zero. -/
def intOfNumeral? (base : Nat) (cs : List Char) : Option Int := do
  let (isNegative, cs) := Double.splitSign (withoutBlanks cs)
  let (actual, cs) := basedNumeral base cs
  let digits ← (← Text.withoutMarks? cs).mapM digit?
  if digits.isEmpty || digits.any (actual ≤ ·) then none
  if base = 0 && actual = 10 && digits.head? = some 0 && digits.any (· ≠ 0) then none
  let n := digits.foldl (fun n d => n * actual + d) 0
  return if isNegative then -(n : Int) else n

/-- The characters of a text or byte string. -/
def characters? : Value → Option (List Char)
  | text s => some s.toList
  | bytes bs => some (bs.map fun b => Char.ofNat b.toNat)
  | _ => none

/-- The integer that a text or byte string stands for to a base. -/
def intOfText (objects : Objects) (base : Nat) (v : Value) (cs : List Char) : Except Fault Int := do
  match intOfNumeral? base cs with
  | some n =>
    let count := (cs.filter Char.isDigit).length
    if base = 10 && Text.digitRoom < count then throw (.tooManyDigits Text.digitRoom count)
    return n
  | none => throw (.badNumeral base (← v.shown objects))

/-- The integer that a value is turned into. -/
def toInt (objects : Objects) (v : Value) : Except Fault Int :=
  match v, v.characters? with
  | float x, _ =>
    if !x.isFinite then .error (.notWhole x.isInfinite)
    else
      let size : Int :=
        if 0 ≤ x.exponent then (x.mantissa * Nat.pow 2 x.exponent.toNat : Nat)
        else (x.mantissa / Nat.pow 2 (-x.exponent).toNat : Nat)
      .ok (if x.isNegative then -size else size)
  | v, some cs => intOfText objects 10 v cs
  | v, none =>
    v.integer?.elim (.error (.notNumber "int" ", a bytes-like object" v.typeName)) .ok

def toFloat (objects : Objects) (v : Value) : Except Fault Value :=
  match v, v.characters? with
  | float _, _ => .ok v
  | v, some cs => match (Complex.withoutMarks? false (withoutBlanks cs)).bind Text.plainDouble? with
    | some x => .ok (float x)
    | none => do throw (.badDecimal (← v.shown objects))
  | v, none => match v.integer? with
    | some n => .ok (float (Double.ofDecimal (n < 0) ⟨n.natAbs, 0⟩))
    | none => .error (.notNumber "float" "" v.typeName)

/-! ### Other numerals -/

/-- An integer to a base of two, eight or sixteen, with the mark for the base. -/
def numeral (letter : Char) (base : Nat) (n : Int) : String :=
  let digits := Nat.toDigits base n.natAbs
  String.ofList ((if n < 0 then ['-'] else []) ++ '0' :: letter :: digits)

def size? : Value → Option Value
  | float x => some (float (Double.ofMagnitude false x.magnitude))
  | v => v.integer?.map fun n => int n.natAbs

end RecordSql.Value
