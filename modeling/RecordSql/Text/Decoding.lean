import RecordSql.Fault
import RecordSql.Text.CodePoint

/-! Texts of byte strings in the Unicode encodings. Surrogates that stand alone are let through. -/

namespace RecordSql.Text

/-- The encodings of Unicode, and for the wider ones whether the high byte comes first. -/
inductive Coding where
  | utf8
  | utf16 (high : Bool)
  | utf32 (high : Bool)
  deriving DecidableEq

/-- Why bytes are no text: the bytes at fault, counted from the start, and the reason. -/
structure CodingProblem where
  first : Nat
  last : Nat
  reason : String

/-! ### UTF-8 -/

/-- The bytes that may follow a first byte: how many, and the bounds of the first of them.
Surrogates are let through. -/
def tailOf (b : UInt8) : Option (Nat × UInt8 × UInt8) :=
  if 0xC2 ≤ b && b ≤ 0xDF then some (1, 0x80, 0xBF)
  else if b = 0xE0 then some (2, 0xA0, 0xBF)
  else if 0xE1 ≤ b && b ≤ 0xEF then some (2, 0x80, 0xBF)
  else if b = 0xF0 then some (3, 0x90, 0xBF)
  else if 0xF1 ≤ b && b ≤ 0xF3 then some (3, 0x80, 0xBF)
  else if b = 0xF4 then some (3, 0x80, 0x8F)
  else none

/-- The leading bytes of a sequence that may stand there, at most `n`; only the first is bounded. -/
def tailPrefix (n : Nat) (low high : UInt8) : List UInt8 → List UInt8
  | [] => []
  | b :: bs =>
    if n = 0 then []
    else if low ≤ b && b ≤ high then b :: tailPrefix (n - 1) 0x80 0xBF bs else []

/-- The code point of a first byte and its tail. -/
def joinTail (b : UInt8) (tail : List UInt8) : Nat :=
  let lead := b.toNat % Nat.pow 2 (6 - tail.length)
  tail.foldl (fun n t => n * 64 + t.toNat % 64) lead

/-- Reads UTF-8, byte by byte from a position; the first argument counts the bytes that belong to a
character already read. -/
def readUtf8 (skip position : Nat) : List UInt8 → Except CodingProblem (List Char)
  | [] => .ok []
  | b :: bs =>
    match skip with
    | skip + 1 => readUtf8 skip (position + 1) bs
    | 0 =>
      if b < 0x80 then (readUtf8 0 (position + 1) bs).map (Char.ofNat b.toNat :: ·)
      else match tailOf b with
        | none => .error ⟨position, position + 1, "invalid start byte"⟩
        | some (n, low, high) =>
          let tail := tailPrefix n low high bs
          if tail.length = n then
            let code := joinTail b tail
            (readUtf8 n (position + 1) bs).map (charsOf code ++ ·)
          else
            -- a surrogate whose last byte is missing is at fault from its second byte on
            let seen := if b = 0xED && 0xA0 ≤ tail.headD 0 then 0 else tail.length
            if seen = bs.length then
              .error ⟨position, position + 1 + seen, "unexpected end of data"⟩
            else .error ⟨position, position + 1 + seen, "invalid continuation byte"⟩

/-! ### UTF-16 and UTF-32 -/

/-- The number of a run of bytes. -/
def unitOf (high : Bool) (bs : List UInt8) : Nat :=
  (if high then bs else bs.reverse).foldl (fun n b => n * 256 + b.toNat) 0

def joinPair (a b : Nat) : Nat := 0x10000 + (a - 0xD800) * 0x400 + (b - 0xDC00)

def joinUnits : List Nat → List Char
  | a :: b :: us =>
    if 0xD800 ≤ a && a ≤ 0xDBFF && 0xDC00 ≤ b && b ≤ 0xDFFF then
      charsOf (joinPair a b) ++ joinUnits us
    else charsOf a ++ joinUnits (b :: us)
  | [a] => charsOf a
  | [] => []

def readUtf16 (high : Bool) (position : Nat) : List UInt8 → Except CodingProblem (List Nat)
  | a :: b :: bs => (readUtf16 high (position + 2) bs).map (unitOf high [a, b] :: ·)
  | [_] => .error ⟨position, position + 1, "truncated data"⟩
  | [] => .ok []

def readUtf32 (high : Bool) (position : Nat) : List UInt8 → Except CodingProblem (List Char)
  | a :: b :: c :: d :: bs =>
    let n := unitOf high [a, b, c, d]
    if n < 0x110000 then (readUtf32 high (position + 4) bs).map (charsOf n ++ ·)
    else .error ⟨position, position + 4, "code point not in range(0x110000)"⟩
  | [] => .ok []
  | bs => .error ⟨position, position + bs.length, "truncated data"⟩

/-! ### Recognition -/

namespace Coding

/-- The name under which faults are reported. -/
def label : Coding → String
  | utf8 => "utf-8"
  | utf16 true => "utf-16-be"
  | utf16 false => "utf-16-le"
  | utf32 true => "utf-32-be"
  | utf32 false => "utf-32-le"

/-- Reads bytes that start at a position. -/
def read (c : Coding) (position : Nat) (bs : List UInt8) : Except CodingProblem (List Char) :=
  match c with
  | utf8 => readUtf8 0 position bs
  | utf16 high => (readUtf16 high position bs).map joinUnits
  | utf32 high => readUtf32 high position bs

/-- The encoding of a structured text without a mark. Such a text begins with an ASCII character, so
the zeros among the first four bytes tell; two bytes can hold only one wide unit. -/
def ofZeros : List UInt8 → Coding
  | a :: b :: c :: d :: _ =>
    if a = 0 then if b = 0 then utf32 true else utf16 true
    else if b = 0 then if c = 0 && d = 0 then utf32 false else utf16 false
    else utf8
  | [a, b] => if a = 0 then utf16 true else if b = 0 then utf16 false else utf8
  | _ => utf8

end Coding

/-- The text of bytes in an encoding, which start at a position. -/
def decodeAs (coding : Coding) (position : Nat) (bs : List UInt8) : Except Fault (List Char) :=
  (coding.read position bs).mapError fun p =>
    .undecodable coding.label (bs.getD (p.first - position) 0) p.first p.last p.reason

/-- The text of bytes that hold a structured text, in the encoding that a mark in front or else the
zero bytes tell. Positions count the mark, but not that of UTF-8. -/
def decode (bs : List UInt8) : Except Fault (List Char) :=
  let (coding, position, rest) := match bs with
    | 0 :: 0 :: 0xFE :: 0xFF :: r => (Coding.utf32 true, 4, r)
    | 0xFF :: 0xFE :: 0 :: 0 :: r => (Coding.utf32 false, 4, r)
    | 0xFE :: 0xFF :: r => (Coding.utf16 true, 2, r)
    | 0xFF :: 0xFE :: r => (Coding.utf16 false, 2, r)
    | 0xEF :: 0xBB :: 0xBF :: r => (Coding.utf8, 0, r)
    | r => (Coding.ofZeros r, 0, r)
  decodeAs coding position rest

/-- The part of a text that a number of bytes has room for. It must end where a character does. -/
def fitted (room : Nat) (s : String) : Except Fault String :=
  (decodeAs .utf8 0 ((utf8 s).take room)).map String.ofList

/-- A text can only be written as bytes if it holds no surrogate. -/
def checkWhole (s : String) : Except Fault Unit :=
  let start := (codes s).takeWhile fun n => !isSurrogate n
  match (codes s).drop start.length with
  | [] => .ok ()
  | n :: l =>
    let first := start.length
    .error (.unencodable n first (first + 1 + (l.takeWhile isSurrogate).length))

end RecordSql.Text
