/-! Byte strings that are written in letters: two hexadecimal digits for each byte, or four symbols
for every three bytes. -/

namespace RecordSql.Text

/-! ### Digits -/

def hexValue? (c : Char) : Option Nat :=
  if '0' ≤ c && c ≤ '9' then some (c.toNat - 48)
  else if 'a' ≤ c && c ≤ 'f' then some (c.toNat - 87)
  else if 'A' ≤ c && c ≤ 'F' then some (c.toNat - 55)
  else none

/-- The bytes of hexadecimal digits. -/
def ofHex? : List Char → Option (List UInt8)
  | [] => some []
  | a :: b :: cs => do
    let byte := (← hexValue? a) * 16 + (← hexValue? b)
    return UInt8.ofNat byte :: (← ofHex? cs)
  | [_] => none

/-! ### Symbols -/

/-- The six bits of a symbol, given the last two symbols of the alphabet. -/
def symbolValue? (symbols : Char × Char) (c : Char) : Option Nat :=
  if 'A' ≤ c && c ≤ 'Z' then some (c.toNat - 65)
  else if 'a' ≤ c && c ≤ 'z' then some (c.toNat - 71)
  else if c.isDigit then some (c.toNat + 4)
  else if c = symbols.1 then some 62
  else if c = symbols.2 then some 63
  else none

/-- A number in bytes, the highest first. -/
def bytesOf : Nat → Nat → List UInt8
  | 0, _ => []
  | count + 1, n => bytesOf count (n / 256) ++ [UInt8.ofNat n]

def symbolsValue? (symbols : Char × Char) (cs : List Char) : Option Nat :=
  cs.foldlM (fun n c => (symbolValue? symbols c).map (n * 64 + ·)) 0

/-- The bytes of the last four symbols, of which two may be left out or filled. The bits that belong
to no byte are zero. -/
def lastBytes? (symbols : Char × Char) (cs : List Char) : Option (List UInt8) := do
  let given := cs.takeWhile (· ≠ '=')
  if cs.isEmpty then return []
  if given.length < 2 || (cs.drop given.length).any (· ≠ '=') then none
  let n ← symbolsValue? symbols given
  let rest := Nat.pow 2 (given.length * 6 % 8)
  if n % rest = 0 then return bytesOf (given.length * 6 / 8) (n / rest) else none

def ofSymbols? (symbols : Char × Char) : List Char → Option (List UInt8)
  | a :: b :: c :: d :: e :: cs => do
    let n ← symbolsValue? symbols [a, b, c, d]
    return bytesOf 3 n ++ (← ofSymbols? symbols (e :: cs))
  | cs => lastBytes? symbols cs

/-- The bytes of a text in one of the two alphabets. -/
def ofBase64? (cs : List Char) : Option (List UInt8) :=
  (ofSymbols? ('-', '_') cs).or (ofSymbols? ('+', '/') cs)

end RecordSql.Text
