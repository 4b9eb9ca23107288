import RecordSql.Text.Encoded
import RecordSql.Text.CodePoint

/-! Escapes in written texts and byte strings: what a backslash and the characters behind it stand
for. A backslash that begins no escape stands for itself. -/

namespace RecordSql.Text

def plainEscapes : List (Char × Nat) :=
  [('\\', 92), ('\'', 39), ('"', 34), ('a', 7), ('b', 8), ('f', 12), ('n', 10), ('r', 13),
    ('t', 9), ('v', 11)]

/-- Adds exactly so many hexadecimal digits to a number, with what is left behind them. -/
def readHex? : Nat → Nat → List Char → Option (Nat × List Char)
  | 0, n, cs => some (n, cs)
  | width + 1, n, c :: cs => do readHex? width (n * 16 + (← hexValue? c)) cs
  | _ + 1, _, [] => none

def isOctal (c : Char) : Bool := '0' ≤ c && c ≤ '7'

/-- How many hexadecimal digits an escape has. Byte strings have the short one alone. -/
def hexWidth? (isText : Bool) (c : Char) : Option Nat :=
  if c = 'x' then some 2
  else if !isText then none
  else if c = 'u' then some 4
  else if c = 'U' then some 8
  else none

/-- The code points of an escape, from behind its backslash, with what is left. Names of characters
are not known. -/
def escape? (isText : Bool) : List Char → Option (List Nat × List Char)
  | [] => none
  | c :: cs =>
    if c = '\n' then some ([], cs)
    else if isOctal c then
      let digits := ((c :: cs).take 3).takeWhile isOctal
      let n := digits.foldl (fun n d => n * 8 + (d.toNat - 48)) 0
      some ([if isText then n else n % 256], (c :: cs).drop digits.length)
    else match plainEscapes.lookup c, hexWidth? isText c with
      | some n, _ => some ([n], cs)
      | none, some width => do
        let (n, cs) ← readHex? width 0 cs
        if n ≤ 0x10FFFF then some ([n], cs) else none
      | none, none => if isText && c = 'N' then none else some ([92], c :: cs)

/-- The code points of a text with at most so many escapes. -/
def unescaped? (isText : Bool) : Nat → List Char → Option (List Nat)
  | 0, cs => if cs.contains '\\' then none else some (codesOf cs)
  | room + 1, cs =>
    match cs.dropWhile (· ≠ '\\') with
    | [] => some (codesOf cs)
    | _ :: rest => do
      let (escaped, rest) ← escape? isText rest
      return codesOf (cs.takeWhile (· ≠ '\\')) ++ escaped ++ (← unescaped? isText room rest)

end RecordSql.Text
