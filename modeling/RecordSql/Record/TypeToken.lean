import RecordSql.Text.Complex
import RecordSql.Text.Escaped
import RecordSql.Text.Identifier
import RecordSql.Text.NormalForm
import RecordSql.Text.Numeral
import RecordSql.Value

/-! The tokens of type expressions: names, constants, written texts and byte strings, marks, and the
ends of lines. Words that are kept for the language are marks. Inside brackets lines do not count;
outside of them, no line is indented. -/

namespace RecordSql

/-- How a value is put into a text: told as a text of its own, shown, or shown with escapes. -/
inductive TextForm where
  | told
  | shown
  | escaped

/-- A piece of a text: plain, or a place for the value of another expression. -/
inductive TextPiece where
  | plain (s : String)
  | place (source : String) (form : TextForm)

inductive TypeToken where
  | name (s : String)
  | constant (v : Value)
  | text (pieces : List TextPiece)
  | bytes (bs : List UInt8)
  | mark (s : String)
  | lineEnd

namespace TypeToken

/-- The value that stands for what is left open. -/
def rest : Value := .member "ellipsis" "Ellipsis"

/-! ### Marks and words -/

/-- The marks of two characters, which are read before those of one. -/
def longMarks : List String := ["**", "//", "<<", ">>", "<=", ">=", "==", "!=", ":="]

def shortMarks : List Char := "[](){},.:|^&~+-*/%@<>=".toList

def mark? (cs : List Char) : Option (TypeToken × List Char) :=
  let long := String.ofList (cs.take 2)
  if longMarks.contains long then some (mark long, cs.drop 2)
  else match cs with
    | c :: cs => if shortMarks.contains c then some (mark c.toString, cs) else none
    | [] => none

/-- The token of a word. A name is taken in its normal form. -/
def ofWord (s : String) : TypeToken :=
  match s with
  | "None" => constant .null
  | "True" | "__debug__" => constant (.bool true)
  | "False" => constant (.bool false)
  | s => if Text.reservedWords.contains s then mark s else name (Text.normalForm s)

/-! ### Numbers -/

/-- The words that may follow a number without a blank. -/
def numberEnds : List String := ["and", "else", "for", "if", "in", "is", "not", "or"]

def endsNumber (cs : List Char) : Bool :=
  numberEnds.any (fun s => s.toList.isPrefixOf cs) ||
    !(cs.head?.map fun c => Text.isFollowing c || 128 ≤ c.toNat).getD false

/-- A run of digits with single underscores between them, without these, and the rest. -/
def digits? (isDigit : Char → Bool) (cs : List Char) : Option (List Char × List Char) := do
  let belongs (c : Char) : Bool := isDigit c || c = '_'
  let digits ← Text.withoutMarks? (cs.takeWhile belongs)
  if digits.isEmpty then none else some (digits, cs.dropWhile belongs)

/-- An integer to another base than ten, from behind the letter for it. -/
def based? (base : Nat) (cs : List Char) : Option (TypeToken × List Char) := do
  let isDigit (c : Char) : Bool := (Text.hexValue? c).any (· < base)
  let (digits, cs) ← digits? isDigit (if cs.head? = some '_' then cs.drop 1 else cs)
  if !endsNumber cs then none
  let n := digits.foldl (fun n c => n * base + (Text.hexValue? c).getD 0) 0
  return (constant (.int n), cs)

/-- The exponent of a number with what is left behind it, if there is one. -/
def exponent? (cs : List Char) : Option (List Char × List Char) :=
  match cs with
  | e :: rest =>
    let (sign, rest) := match rest with
      | '-' :: rest => (['-'], rest)
      | '+' :: rest => ([], rest)
      | rest => ([], rest)
    if e = 'e' || e = 'E' then
      (digits? Char.isDigit rest).map fun d => ('e' :: sign ++ d.1, d.2)
    else none
  | [] => none

def imaginary (x : Double) : Value :=
  .member "complex" (Complex.text ⟨Double.ofMagnitude false 0, x⟩)

/-- A number to base ten. Only zero begins with a zero, unless the number has a point, an exponent
or a part that is imaginary. -/
def decimal? (cs : List Char) : Option (TypeToken × List Char) := do
  let (whole, cs) ← if cs.head? = some '.' then some ([], cs) else digits? Char.isDigit cs
  let (part, cs) ← match cs with
    | '.' :: cs =>
      if (cs.head?.map Char.isDigit).getD false then
        (digits? Char.isDigit cs).map fun d => ('.' :: d.1, d.2)
      else some (['.'], cs)
    | cs => some ([], cs)
  let (power, cs) := (exponent? cs).getD ([], cs)
  let isFloat := !part.isEmpty || !power.isEmpty
  match cs with
  | 'j' :: cs | 'J' :: cs =>
    let x ← Double.ofDecimalText? false (whole ++ part ++ power)
    if endsNumber cs then some (constant (imaginary x), cs) else none
  | cs =>
    if !endsNumber cs then none
    else if isFloat then
      let x ← Double.ofDecimalText? false (whole ++ part ++ power)
      some (constant (.float x), cs)
    else if Text.digitRoom < whole.length then none
    else if whole.head? = some '0' && whole.any (· ≠ '0') then none
    else some (constant (.int (Double.ofDigits whole)), cs)

def number? : List Char → Option (TypeToken × List Char)
  | '0' :: c :: cs =>
    if c = 'x' || c = 'X' then based? 16 cs
    else if c = 'o' || c = 'O' then based? 8 cs
    else if c = 'b' || c = 'B' then based? 2 cs
    else decimal? ('0' :: c :: cs)
  | cs => decimal? cs

/-! ### Texts -/

/-- How a text is written: without escapes, as bytes, and with places for values. -/
structure Writing where
  isRaw : Bool := false
  isBytes : Bool := false
  hasPlaces : Bool := false

/-- The writing that some letters in front of a quote ask for. -/
def writing? (letters : List Char) : Option Writing :=
  match String.ofList (letters.map Char.toLower) with
  | "" | "u" => some {}
  | "r" => some { isRaw := true }
  | "b" => some { isBytes := true }
  | "f" => some { hasPlaces := true }
  | "br" | "rb" => some { isRaw := true, isBytes := true }
  | "fr" | "rf" => some { isRaw := true, hasPlaces := true }
  | _ => none

/-- What stands in front of a closing quote, perhaps three of it, with what is left behind it. A
line ends within three quotes alone, or behind a backslash. -/
def inside? (quote : Char) (isTriple : Bool) : List Char → Option (List Char × List Char)
  | [] | ['\\'] => none
  | '\\' :: c :: cs => do
    let (front, cs) ← inside? quote isTriple cs
    return ('\\' :: c :: front, cs)
  | c :: cs =>
    if c = quote && !isTriple then some ([], cs)
    else if c = quote && [quote, quote].isPrefixOf cs then some ([], cs.drop 2)
    else if c = '\n' && !isTriple then none
    else do
      let (front, cs) ← inside? quote isTriple cs
      return (c :: front, cs)

/-- The expression in a place, up to the mark that ends it, with so many brackets open and perhaps
inside a quote. -/
def source? : Nat → Option Char → List Char → Option (List Char × List Char)
  | _, _, [] => none
  | depth, quote?, c :: cs =>
    let further (depth : Nat) (quote? : Option Char) : Option (List Char × List Char) :=
      (source? depth quote? cs).map fun r => (c :: r.1, r.2)
    if c = '\\' then none
    else match quote? with
      | some quote => further depth (if c = quote then none else some quote)
      | none =>
        if c = '#' then none
        else if c = '\'' || c = '"' then further depth (some c)
        else if "([\x7b".toList.contains c then further (depth + 1) none
        else if 0 < depth then
          further (if ")]\x7d".toList.contains c then depth - 1 else depth) none
        else match c, cs with
          | '!', '=' :: cs | '=', '=' :: cs | '<', '=' :: cs | '>', '=' :: cs =>
            (source? depth none cs).map fun r => (c :: '=' :: r.1, r.2)
          | _, _ =>
            if "!:=\x7d".toList.contains c then some ([], c :: cs)
            else if ")]".toList.contains c then none
            else further depth none

/-- What is left behind the brace that closes a place; nothing is said there of the width of a text.
-/
def behindPlace? : List Char → Option (List Char)
  | '\x7d' :: cs | ':' :: '\x7d' :: cs => some cs
  | _ => none

/-- The form that a place asks for, in the way in which one is shown by default, with what is left
behind the place. -/
def form? (usual : TextForm) : List Char → Option (TextForm × List Char)
  | '!' :: c :: cs => do
    let form ← [('s', TextForm.told), ('r', .shown), ('a', .escaped)].lookup c
    return (form, ← behindPlace? cs)
  | cs => (behindPlace? cs).map fun cs => (usual, cs)

/-- The pieces of a place, from behind the brace that opens it, with what is left. An equals sign
behind the expression shows it in front of its value. -/
def place? (cs : List Char) : Option (List TextPiece × List Char) := do
  let (source, cs) ← source? 0 none cs
  if source.all fun c => c = ' ' || c = '\n' then none
  let s := String.ofList source
  match cs with
  | '=' :: cs =>
    let (form, cs) ← form? .shown cs
    return ([.plain (s ++ "="), .place s form], cs)
  | cs =>
    let (form, cs) ← form? .told cs
    return ([.place s form], cs)

/-- The pieces of a text of at most so many characters with places, in which a brace for itself is
written twice, given how its plain pieces are read, and what of one is read already. -/
def piecesOf? (plain? : List Char → Option TextPiece) :
    Nat → List Char → List Char → Option (List TextPiece)
  | 0, _, _ => none
  | _ + 1, front, [] => do return [← plain? front.reverse]
  | room + 1, front, '\x7b' :: '\x7b' :: cs => piecesOf? plain? room ('\x7b' :: front) cs
  | room + 1, front, '\x7d' :: '\x7d' :: cs => piecesOf? plain? room ('\x7d' :: front) cs
  | room + 1, front, '\x7b' :: cs => do
    let (pieces, cs) ← place? cs
    return (← plain? front.reverse) :: pieces ++ (← piecesOf? plain? room [] cs)
  | room + 1, front, c :: cs => if c = '\x7d' then none else piecesOf? plain? room (c :: front) cs

def ofWritten? (writing : Writing) (cs : List Char) : Option TypeToken := do
  let codes? (cs : List Char) : Option (List Nat) :=
    if writing.isRaw then some (Text.codesOf cs)
    else Text.unescaped? (!writing.isBytes) cs.length cs
  let plain? (cs : List Char) : Option TextPiece :=
    (codes? cs).map fun codes => .plain (Text.ofCodes codes)
  if writing.isBytes then
    if cs.any fun c => 128 ≤ c.toNat then none
    return bytes ((← codes? cs).map UInt8.ofNat)
  else if writing.hasPlaces then return text (← piecesOf? plain? (cs.length + 1) [] cs)
  else return text [← plain? cs]

/-- The token of a text or byte string, from its quote on. -/
def written? (writing : Writing) : List Char → Option (TypeToken × List Char)
  | [] => none
  | quote :: cs => do
    let isTriple := [quote, quote].isPrefixOf cs
    let (front, cs) ← inside? quote isTriple (if isTriple then cs.drop 2 else cs)
    return (← ofWritten? writing front, cs)

/-! ### Scanning -/

/-- The first token of a text that begins with none of what separates tokens. -/
def first? (cs : List Char) : Option (TypeToken × List Char) :=
  let letters := cs.takeWhile Char.isAlpha
  let behind := cs.drop letters.length
  let isQuoted := behind.head? = some '\'' || behind.head? = some '"'
  match if isQuoted then writing? letters else none with
  | some writing => written? writing behind
  | none => match cs with
    | '.' :: '.' :: '.' :: cs => some (constant rest, cs)
    | '.' :: c :: _ => if c.isDigit then number? cs else mark? cs
    | c :: _ =>
      if c.isDigit then number? cs
      else if Text.isLeading c then
        some (ofWord (String.ofList (cs.takeWhile Text.isFollowing)), cs.dropWhile Text.isFollowing)
      else mark? cs
    | [] => none

/-- The column at which a line begins, and the line from there on. A line that a backslash ends goes
on in the next one, and begins where the first one does. -/
def indentation? (column start : Nat) : List Char → Option (Nat × List Char)
  | ' ' :: cs | '\t' :: cs => indentation? (column + 1) start cs
  | '\x0c' :: cs => indentation? 0 start cs
  | '\\' :: '\n' :: cs =>
    if cs.isEmpty then none else indentation? column (if start = 0 then column else start) cs
  | '\\' :: _ => none
  | cs => some (if start = 0 then column else start, cs)

/-- How deep brackets may lie inside each other. -/
def bracketDepth : Nat := 200

def depthBehind? (depth : Nat) : TypeToken → Option Nat
  | mark s =>
    if ["(", "[", "\x7b"].contains s then if depth < bracketDepth then some (depth + 1) else none
    else if [")", "]", "\x7d"].contains s then if depth = 0 then none else some (depth - 1)
    else some depth
  | _ => some depth

/-- The tokens of a text of at most so many characters, perhaps from the beginning of a line, with
so many brackets open. -/
def scan? : Nat → Bool → Nat → List Char → Option (List TypeToken)
  | 0, _, _, _ => none
  | room + 1, atStart, depth, cs => do
    let (column, cs) ← if atStart then indentation? 0 0 cs else some (0, cs)
    let isIndented := column ≠ 0 && depth = 0
    match cs.dropWhile fun c => c = ' ' || c = '\t' || c = '\x0c' with
    | [] => if isIndented then none else some []
    | '#' :: cs => scan? room atStart depth (cs.dropWhile (· ≠ '\n'))
    | '\n' :: cs =>
      if atStart || 0 < depth then scan? room true depth cs
      else (lineEnd :: ·) <$> scan? room true depth cs
    | '\\' :: '\n' :: cs => if cs.isEmpty then none else scan? room false depth cs
    | cs =>
      if isIndented then none
      let (token, cs) ← first? cs
      return token :: (← scan? room false (← depthBehind? depth token) cs)

/-- A text with one and the same character at the end of every line. -/
def unifiedLines : List Char → List Char
  | [] => []
  | '\r' :: '\n' :: cs | '\r' :: cs => '\n' :: unifiedLines cs
  | c :: cs => c :: unifiedLines cs

/-- The tokens of a text, without the ends of lines behind the others. -/
def ofText? (s : String) : Option (List TypeToken) := do
  let cs := unifiedLines s.toList
  let tokens ← scan? (cs.length + 1) true 0 cs
  let isLineEnd : TypeToken → Bool
    | lineEnd => true
    | _ => false
  return (tokens.reverse.dropWhile isLineEnd).reverse

end TypeToken

end RecordSql
