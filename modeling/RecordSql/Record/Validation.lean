import RecordSql.Config
import RecordSql.Record.FieldType
import RecordSql.Text.Case
import RecordSql.Text.Complex
import RecordSql.Text.Encoded
import RecordSql.Text.Numeral
import RecordSql.Text.CodePoint

/-! Validation of plain values: what becomes of a value where a type without parts is asked for, or
why it is refused. A value of another kind is turned into one of the type if nothing is lost by
that, unless values are taken strictly. -/

namespace RecordSql

/-- How near a value is to its type: it was turned into a value of the type, it passes for one, or
it is one. -/
inductive Exactness where
  | lax
  | strict
  | exact
  deriving DecidableEq

namespace Exactness

def rank : Exactness → Nat
  | lax => 0
  | strict => 1
  | exact => 2

def lower (a b : Exactness) : Exactness := if a.rank ≤ b.rank then a else b

end Exactness

/-- How byte strings are written in texts. -/
inductive ByteCoding where
  | utf8
  | hex
  | base64
  deriving DecidableEq

/-- How values are validated: strictly or not; whether numbers become texts, and numbers have to be
finite; how byte strings are read off texts; what becomes of texts, and how long they may be. -/
structure Validation where
  strict : Bool := false
  writesNumbers : Bool := false
  finiteOnly : Bool := false
  byteCoding : ByteCoding := .utf8
  trims : Bool := false
  lowers : Bool := false
  uppers : Bool := false
  least? : Option Int := none
  most? : Option Int := none

/-- A valid value and how near it is to its type, or why it is refused. -/
abbrev Checked := Except Rejection (Value × Exactness)

/-- Why a part of a value is refused: the names on the way from the value to the part, and the
reason. -/
structure Problem where
  path : List String := []
  why : Rejection

namespace Problem

def within (name : String) (p : Problem) : Problem := { p with path := name :: p.path }

def told (p : Problem) : String × Rejection := (".".intercalate p.path, p.why)

end Problem

/-- How well a value fits a type: how near all of its parts are to their types, and how many fields
of records were given in it, if there are any records that had to be made. -/
structure Grade where
  exactness : Exactness := .exact
  given? : Option Nat := none

namespace Grade

/-- The grade with a part that is only so near to its type. -/
def floored (g : Grade) (e : Exactness) : Grade := { g with exactness := g.exactness.lower e }

/-- The grade with some fields more. -/
def withGiven (g : Grade) (count : Nat) : Grade :=
  { g with given? := some (g.given?.getD 0 + count) }

/-- Whether nothing had to be turned into something else or made. -/
def isPerfect (g : Grade) : Bool := g.exactness = .exact && g.given?.isNone

/-- Whether a grade is worse than another: by the fields that were given, or else by the distance
from the types. -/
def isBelow (g h : Grade) : Bool :=
  match g.given?, h.given? with
  | some m, some n => if m = n then g.exactness.rank < h.exactness.rank else m < n
  | _, _ => g.exactness.rank < h.exactness.rank

def joined (g part : Grade) : Grade :=
  part.given?.elim (g.floored part.exactness) (g.floored part.exactness).withGiven

end Grade

/-- What became of some values: something valid with the grade of all that was validated so far, or
what is wrong. -/
abbrev Graded (α : Type) := Except (List Problem) (α × Grade)

abbrev Validated := Graded Value

def refused {α : Type} (why : Rejection) : Graded α := .error [{ why }]

/-- What became of something that stands under a name. -/
def Graded.within {α : Type} (name : String) (r : Graded α) : Graded α :=
  r.mapError (·.map (·.within name))

/-- What becomes of a plain value after others. -/
def Checked.after (g : Grade) (c : Checked) : Validated :=
  match c with
  | .ok (v, e) => .ok (v, g.floored e)
  | .error why => refused why

/-- What became of some parts of a value: the valid ones, and what is wrong with the others. -/
structure Parts (α : Type) where
  valid : List α := []
  problems : List Problem := []
  grade : Grade

namespace Parts

variable {α β : Type}

def adding (ps : Parts α) : Graded α → Parts α
  | .ok (a, grade) => { ps with valid := ps.valid ++ [a], grade }
  | .error problems => { ps with problems := ps.problems ++ problems }

/-- What becomes of the whole, unless a part is refused. -/
def made (ps : Parts α) (make : List α → β) : Graded β :=
  if ps.problems.isEmpty then .ok (make ps.valid, ps.grade) else .error ps.problems

end Parts

namespace Validation

variable (rules : Validation)

/-- A value that was turned into one of a type, which is not done strictly. -/
def turned (why : Rejection) (v : Value) : Checked :=
  if rules.strict then .error why else .ok (v, .lax)

/-! ### Numbers -/

/-- The text that a value stands for where a word is asked for, if it does; bytes may stand for
none, which has a reason of its own, and neither may a text with surrogates. -/
def word? (why : Rejection) : Value → Option (Except Rejection String)
  | .text s => some (if Text.isWhole s then .ok s else .error .textCoding)
  | .bytes bs => some ((Config.textOfBytes? bs).elim (.error why) .ok)
  | _ => none

def intOfText (s : String) : Except Rejection Int :=
  (Text.readInt s).mapError fun problem => match problem with
    | .size => .intSize
    | .form => .intText

/-- The integer of a floating-point number. -/
def intOfDouble (x : Double) : Except Rejection Int :=
  if !x.isFinite then .error .finiteNumber
  else match x.toInt? with
    | none => .error .intFraction
    | some n => if n.natAbs < 0x8000000000000000 then .ok n else .error .intSize

def checkInt (v : Value) : Checked :=
  let turnedInt (r : Except Rejection Int) : Checked :=
    if rules.strict then .error .intType else r.map fun n => (.int n, .lax)
  match v with
  | .int n => .ok (.int n, .exact)
  | .bool b => rules.turned .intType (.int (if b then 1 else 0))
  | .float x => turnedInt (intOfDouble x)
  | v => match word? .intText v with
    | none => .error .intType
    | some s => turnedInt (s.bind intOfText)

/-- A floating-point number, which may have to be finite. -/
def finished (x : Double) (exactness : Exactness) : Checked :=
  if rules.finiteOnly && !x.isFinite then .error .finiteNumber else .ok (.float x, exactness)

def checkFloat (v : Value) : Checked :=
  match v with
  | .float x => rules.finished x .exact
  | .int n =>
    let x := Double.ofDecimal (n < 0) ⟨n.natAbs, 0⟩
    if x.isFinite then rules.finished x .strict else .error .floatType
  | .bool b => rules.turned .floatType (.float (Double.ofDecimal false ⟨if b then 1 else 0, 0⟩))
  | v => match word? .floatText v with
    | none => .error .floatType
    | some s =>
      if rules.strict then .error .floatType
      else do rules.finished (← (Text.double? (← s)).elim (.error .floatText) .ok) .lax

def complexValue (z : Complex) : Value := .member "complex" z.text

def complexOf? (v : Value) : Option Complex :=
  let whole (n : Int) : Option Complex :=
    let x := Double.ofDecimal (n < 0) ⟨n.natAbs, 0⟩
    if x.isFinite then some ⟨x, Double.ofMagnitude false 0⟩ else none
  match v with
  | .float x => some ⟨x, Double.ofMagnitude false 0⟩
  | .int n => whole n
  | .bool b => whole (if b then 1 else 0)
  | .text s => Complex.ofText? s
  | _ => none

def checkComplex (v : Value) : Checked :=
  match v with
  | .member "complex" _ => .ok (v, .strict)
  | v =>
    if rules.strict then .error .otherClass
    else (complexOf? v).elim (.error .complexType) fun z => .ok (complexValue z, .lax)

def checkBool (v : Value) : Checked :=
  match v with
  | .bool b => .ok (.bool b, .exact)
  | v => if rules.strict then .error .boolType else (Config.boolOf v).map fun b => (.bool b, .lax)

/-! ### Texts -/

/-- Whether there are constraints for texts, which only those without surrogates can meet. -/
def constrainsTexts : Bool :=
  rules.trims || rules.lowers || rules.uppers || rules.least?.isSome || rules.most?.isSome

/-- A text in the form that is asked for. -/
def formed (s : String) (exactness : Exactness) : Checked :=
  if rules.constrainsTexts && !Text.isWhole s then .error .textCoding
  else
    let s := if rules.trims then String.ofList (Text.trimmed s.toList) else s
    let length : Int := Text.length s
    if rules.least?.any (length < ·) then .error .textTooShort
    else if rules.most?.any (· < length) then .error .textTooLong
    else
      let s := if rules.lowers then Text.lower s else if rules.uppers then Text.upper s else s
      .ok (.text s, exactness)

def checkText (v : Value) : Checked :=
  let written (s : String) : Checked :=
    if rules.writesNumbers && !rules.strict then rules.formed s .lax else .error .textType
  match v with
  | .text s => rules.formed s .exact
  | .bytes bs =>
    if rules.strict then .error .textType
    else (Config.textOfBytes? bs).elim (.error .textCoding) fun s => rules.formed s .lax
  | .int n => written (toString n)
  | .float x => written (Double.Style.plain.text x)
  | _ => .error .textType

def bytesOfText (s : String) : Except Rejection (List UInt8) :=
  let coded (bytes? : Option (List UInt8)) : Except Rejection (List UInt8) :=
    bytes?.elim (.error .bytesCoding) .ok
  if !Text.isWhole s then .error .textCoding
  else match rules.byteCoding with
    | .utf8 => .ok (Text.utf8 s)
    | .hex => coded (Text.ofHex? s.toList)
    | .base64 => coded (Text.ofBase64? s.toList)

def checkBytes (v : Value) : Checked :=
  match v with
  | .bytes bs => .ok (.bytes bs, .exact)
  | .text s =>
    if rules.strict then .error .bytesType
    else (rules.bytesOfText s).map fun bs => (.bytes bs, .lax)
  | _ => .error .bytesType

end Validation

end RecordSql
