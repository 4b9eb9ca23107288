import RecordSql.Value.Order

/-! Calculating with values: integers and finite floating-point numbers by their signs, and
sequences put together and repeated. A quotient is a floating-point number, and so is a power with
an exponent below zero. What would be too long is refused before it is made. -/

namespace RecordSql.Value

def integer? : Value → Option Int
  | bool b => some (if b then 1 else 0)
  | int n => some n
  | _ => none

/-! ### Repetitions -/

/-- Whether an integer can be the number of a place in a sequence. -/
def isPlace (n : Int) : Bool := -0x8000000000000000 ≤ n && n < 0x8000000000000000

/-- From this length on there is no room for a sequence. -/
def roomLimit : Int := 0x1000000000

/-- How often a sequence of some length stands in a row by an integer; less than once is not at
all. -/
def repetitions (tooLong : Fault) (length : Nat) (n : Int) : Except Fault Nat :=
  let total := n * length
  if !isPlace n then .error (.indexOverflow "int")
  else if total ≤ 0 then .ok 0
  else if !isPlace total then .error tooLong
  else if roomLimit ≤ total then .error .noRoom
  else .ok n.toNat

/-- A list so many times in a row. -/
def repeated {α : Type} (tooLong : Fault) (l : List α) (n : Int) : Except Fault (List α) := do
  return (List.replicate (← repetitions tooLong l.length n) l).flatten

/-! ### Integers -/

/-- The bits of an integer that both integers have: a negative one has all but those of the number
below its size. -/
def commonBits (m n : Int) : Int :=
  match m, n with
  | .ofNat a, .ofNat b => Nat.land a b
  | .ofNat a, .negSucc b => (a : Int) - Nat.land a b
  | .negSucc a, .ofNat b => (b : Int) - Nat.land a b
  | .negSucc a, .negSucc b => -1 - (Nat.lor a b : Nat)

/-- The bits of an integer that one of two integers has, or both. -/
def eitherBits (m n : Int) : Int := -1 - commonBits (-1 - m) (-1 - n)

def differentBits (m n : Int) : Int := eitherBits m n - commonBits m n

/-- The floating-point number nearest to a quotient, with a sign for zero. -/
def nearestFloat (isNegative : Bool) (m : Int) (n : Nat) : Value :=
  if m = 0 then float (Double.ofMagnitude isNegative 0)
  else float (Double.ofMagnitude (m < 0) (Double.nearest m.natAbs n))

/-- The quotient of two integers as a floating-point number. -/
def quotient (m n : Int) : Value := nearestFloat (n < 0) (m * n.sign) n.natAbs

/-- How many bits a power may have. -/
def bitRoom : Nat := 0x1000000

/-- How many bits no integer can have. -/
def bitLimit : Int := 30 * 0x2000000000000000

/-- An integer with its bits shifted to the higher places. -/
def raised (m n : Int) : Except Fault Value :=
  if n < 0 then .error .negativeShift
  else if m = 0 then .ok (int 0)
  else if bitLimit ≤ n then .error .integerLimit
  else if roomLimit ≤ n then .error .noRoom
  else .ok (int (m * Nat.pow 2 n.toNat))

/-- An integer with its bits shifted to the lower places, of which there may be none left. -/
def lowered (m n : Int) : Except Fault Value :=
  if n < 0 then .error .negativeShift
  else if m.natAbs.log2 < n then .ok (int (if m < 0 then -1 else 0))
  else .ok (int (m.fdiv (Nat.pow 2 n.toNat)))

/-- A power of an integer, unless it would be too long. -/
def power? (m n : Int) : Option (Except Fault Value) :=
  if bitRoom ≤ m.natAbs.log2 * n.natAbs then none
  else if 0 ≤ n then some (.ok (int (Int.pow m n.toNat)))
  else if m = 0 then some (.error (.zeroDivision "0.0 cannot be raised to a negative power"))
  else some (.ok (quotient 1 (Int.pow m n.natAbs)))

def integers? (sign : String) (m n : Int) : Option (Except Fault Value) :=
  let unlessZero (isZero : Bool) (problem : String) (v : Value) : Option (Except Fault Value) :=
    some (if isZero then .error (.zeroDivision problem) else .ok v)
  match sign with
  | "+" => some (.ok (int (m + n)))
  | "-" => some (.ok (int (m - n)))
  | "*" => some (.ok (int (m * n)))
  | "/" => unlessZero (n = 0) "division by zero" (quotient m n)
  | "//" => unlessZero (n = 0) "integer division or modulo by zero" (int (m.fdiv n))
  | "%" => unlessZero (n = 0) "integer modulo by zero" (int (m.fmod n))
  | "**" => power? m n
  | "<<" => some (raised m n)
  | ">>" => some (lowered m n)
  | "&" => some (.ok (int (commonBits m n)))
  | "|" => some (.ok (int (eitherBits m n)))
  | "^" => some (.ok (int (differentBits m n)))
  | _ => none

def truths? (sign : String) (a b : Bool) : Option Value :=
  match sign with
  | "&" => some (bool (a && b))
  | "|" => some (bool (a || b))
  | "^" => some (bool (a != b))
  | _ => none

/-! ### Floating-point numbers -/

/-- A finite number as a quotient, with its sign. -/
def ratio? : Value → Option (Bool × Int × Nat)
  | float x =>
    if !x.isFinite then none
    else
      let m : Int := (x.mantissa * Nat.pow 2 x.exponent.toNat : Nat)
      some (x.isNegative, if x.isNegative then -m else m, Nat.pow 2 (-x.exponent).toNat)
  | v => v.integer?.map fun n => (n < 0, n, 1)

/-- The result of a sign between two finite numbers of which one is no integer. -/
def floats? (sign : String) (v w : Value) : Option (Except Fault Value) := do
  let (isNegative, m, a) ← v.ratio?
  let (isOther, n, b) ← w.ratio?
  match sign with
  | "+" => return .ok (nearestFloat (isNegative && isOther) (m * b + n * a) (a * b))
  | "-" => return .ok (nearestFloat (isNegative && !isOther) (m * b - n * a) (a * b))
  | "*" => return .ok (nearestFloat (isNegative != isOther) (m * n) (a * b))
  | "/" =>
    if n = 0 then return .error (.zeroDivision "float division by zero")
    else return .ok (nearestFloat (isNegative != isOther) (m * b * n.sign) (a * n.natAbs))
  | "//" =>
    if n = 0 then return .error (.zeroDivision "float floor division by zero")
    else return .ok (nearestFloat (isNegative != isOther) ((m * b).fdiv (n * a)) 1)
  | "%" =>
    if n = 0 then return .error (.zeroDivision "float modulo")
    else return .ok (nearestFloat isOther (m * b - n * a * (m * b).fdiv (n * a)) (a * b))
  | _ => none

/-! ### Signs -/

/-- The types of values that are put together with others of their type. -/
def sequenceTypes : List String := ["str", "bytes", "list", "tuple"]

/-- What a sign ends in that does not join two values, given the names of their types. -/
def notJoinedBy (sign left right : String) : Fault :=
  if sign = "+" && sequenceTypes.contains left then .notJoined left right
  else if sign = "*" && sequenceTypes.contains left then .notCount right
  else if sign = "*" && sequenceTypes.contains right then .notCount left
  else .notOperands (if sign = "**" then "** or pow()" else sign) left right

/-- A sequence so many times in a row, if the value is one. -/
def repeated? (v : Value) (n : Int) : Option (Except Fault Value) :=
  match v with
  | text s => some do
    return text (String.join (← repeated (.repetitionTooLong "string is") (Text.letters s) n))
  | bytes bs => some do return bytes (← repeated (.repetitionTooLong "bytes are") bs n)
  | _ => none

def joined (sign : String) (v w : Value) : Except Fault Value :=
  let fault : Except Fault Value := .error (notJoinedBy sign v.typeName w.typeName)
  match sign, v, w with
  | "+", text s, text t => .ok (text (s ++ t))
  | "+", bytes bs, bytes cs => .ok (bytes (bs ++ cs))
  | sign, bool a, bool b => match truths? sign a b with
    | some v => .ok v
    | none => (integers? sign (if a then 1 else 0) (if b then 1 else 0)).getD fault
  | sign, v, w => match v.integer?, w.integer? with
    | some m, some n => (integers? sign m n).getD fault
    | none, some n => match floats? sign v w with
      | some found => found
      | none => if sign = "*" then (v.repeated? n).getD fault else fault
    | some n, none => match floats? sign v w with
      | some found => found
      | none => if sign = "*" then (w.repeated? n).getD fault else fault
    | none, none => (floats? sign v w).getD fault

def signed (sign : String) (v : Value) : Except Fault Value :=
  match sign, v with
  | "-", float x => .ok (float (Double.ofMagnitude (!x.isNegative) x.magnitude))
  | "+", float x => .ok (float x)
  | sign, v => match v.integer? with
    | none => .error (.notOperand sign v.typeName)
    | some n => match sign with
      | "-" => .ok (int (-n))
      | "~" => .ok (int (-1 - n))
      | _ => .ok (int n)

/-! ### Comparisons -/

def ordered (objects : Objects) (sign : String) (v w : Value) : Except Fault Bool := do
  let asked := match sign with
    | "<" | "<=" => less objects v w
    | _ => less objects w v
  match asked with
  | .error (.notOrdered ..) => throw (.notOrdered sign v.typeName w.typeName)
  | .error f => throw f
  | .ok true => return true
  | .ok false => if sign = "<=" || sign = ">=" then same objects v w else return false

end RecordSql.Value
