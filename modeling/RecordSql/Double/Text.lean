import RecordSql.Double.Shortest

/-! The text of a floating-point number, and the number of a text. -/

namespace RecordSql.Double

/-- How a format writes floating-point numbers: positionally while the place of the first digit lies
between two bounds, and otherwise with an exponent of a least width; and the names of the patterns
that stand for no finite number. -/
structure Style where
  least : Int
  most : Int
  exponentWidth : Nat
  infinity : String
  nan : String

/-- Messages write numbers positionally from `0.0001` up to, and without, ten to the sixteenth. -/
def Style.plain : Style := ⟨-3, 16, 2, "inf", "nan"⟩

/-- Structured texts write the same digits, under other names for the non-finite patterns. -/
def Style.structured : Style := { Style.plain with infinity := "Infinity", nan := "NaN" }

/-- A number of at least `width` digits. -/
def padded (width n : Nat) : List Char :=
  let ds := Nat.toDigits 10 n
  List.replicate (width - ds.length) '0' ++ ds

/-- The digits of a decimal with its point in place. -/
def Style.write (style : Style) (d : Decimal) : List Char :=
  let ds := Nat.toDigits 10 d.digits
  let place : Int := ds.length + d.exponent
  if style.least ≤ place ∧ place ≤ style.most then
    if place ≤ 0 then '0' :: '.' :: List.replicate (-place).toNat '0' ++ ds
    else if (ds.length : Int) ≤ place then
      ds ++ List.replicate (place - ds.length).toNat '0' ++ ['.', '0']
    else ds.take place.toNat ++ '.' :: ds.drop place.toNat
  else
    let e := place - 1
    let tail := ds.drop 1
    ds.take 1 ++ (if tail.isEmpty then [] else '.' :: tail) ++
      'e' :: (if e < 0 then '-' else '+') :: padded style.exponentWidth e.natAbs

def Style.text (style : Style) (x : Double) : String :=
  if x.isNaN then style.nan
  else
    let sign := if x.isNegative then ['-'] else []
    let body :=
      if x.isInfinite then style.infinity.toList
      else if x.isZero then ['0', '.', '0']
      else style.write x.shortest
    String.ofList (sign ++ body)

/-! ### Reading -/

/-- The number of a run of digits. -/
def ofDigits (cs : List Char) : Nat := cs.foldl (fun n c => 10 * n + (c.toNat - 48)) 0

/-- The decimal with the given digits before and after the point, shifted by an exponent. -/
def decimal (whole part : List Char) (e : Int) : Decimal :=
  ⟨ofDigits (whole ++ part), e - part.length⟩

/-- A sign, if one stands in front. -/
def splitSign : List Char → Bool × List Char
  | '-' :: cs => (true, cs)
  | '+' :: cs => (false, cs)
  | cs => (false, cs)

/-- The finite number of a text of digits with an optional point and exponent. -/
def ofDecimalText? (negative : Bool) (cs : List Char) : Option Double :=
  let whole := cs.takeWhile Char.isDigit
  let rest := cs.dropWhile Char.isDigit
  let (part, rest) := match rest with
    | '.' :: r => (r.takeWhile Char.isDigit, r.dropWhile Char.isDigit)
    | r => ([], r)
  if whole.isEmpty && part.isEmpty then none
  else match rest with
    | [] => some (ofDecimal negative (decimal whole part 0))
    | 'e' :: r =>
      let (down, ds) := splitSign r
      if ds.isEmpty || !ds.all Char.isDigit then none
      else
        let e : Int := ofDigits ds
        some (ofDecimal negative (decimal whole part (if down then -e else e)))
    | _ => none

/-- The number of a text that some style without renamed patterns writes; the serial tells apart the
patterns that stand for no number. -/
def ofText? (serial : Nat) (s : String) : Option Double :=
  let (negative, cs) := splitSign s.toList
  if cs = "nan".toList then some (nan serial)
  else if cs = "inf".toList then some (infinity negative)
  else ofDecimalText? negative cs

end RecordSql.Double
