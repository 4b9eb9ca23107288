import RecordSql.Assoc
import RecordSql.Double.Text
import RecordSql.Text.Decoding
import RecordSql.Text.Encoded

/-! Reading structured texts. Each reader takes characters off the front of a text and gives what it
read with the rest, which is shorter; a problem is located by what was left of the text. -/

namespace RecordSql.Json

/-- How many digits an integer may have, and how deep arrays and objects may lie inside each other.
-/
structure Limits where
  digits : Nat
  depth : Nat

def Limits.usual : Limits := ⟨4300, 986⟩

/-- What is wrong, and how many characters were left there; or a limit that is passed. -/
inductive Problem where
  | located (kind : DocumentProblem) (left : Nat)
  | beyond (f : Fault)

/-- What was read off a text, and the rest. -/
structure Read (α : Type) (s : List Char) where
  value : α
  rest : List Char
  shorter : rest.length < s.length

def isBlank (c : Char) : Bool := c = ' ' || c = '\t' || c = '\n' || c = '\r'

def skipBlank (s : List Char) : List Char := s.dropWhile isBlank

theorem skipBlank_length (s : List Char) : (skipBlank s).length ≤ s.length :=
  (List.dropWhile_suffix isBlank).length_le

theorem skipBlank_length_of_eq {s t : List Char} (h : skipBlank s = t) : t.length ≤ s.length :=
  h ▸ skipBlank_length s

/-! ### Texts -/

/-- Four hexadecimal digits with at least one character behind them. -/
def readUnit? : List Char → Option (Nat × List Char)
  | a :: b :: c :: d :: e :: r => do
    let a ← Text.hexValue? a
    let b ← Text.hexValue? b
    let c ← Text.hexValue? c
    let d ← Text.hexValue? d
    return (((a * 16 + b) * 16 + c) * 16 + d, e :: r)
  | _ => none

theorem readUnit?_length {s r : List Char} {n : Nat} (h : readUnit? s = some (n, r)) :
    r.length + 4 = s.length := by
  unfold readUnit? at h
  split at h
  · simp only [Option.bind_eq_bind, Option.bind_eq_some_iff, Option.pure_def, Option.some.injEq,
      Prod.mk.injEq] at h
    obtain ⟨_, _, _, _, _, _, _, _, _, rfl⟩ := h
    simp
  · cases h

def isHigh (n : Nat) : Bool := 0xD800 ≤ n && n ≤ 0xDBFF

def isLow (n : Nat) : Bool := 0xDC00 ≤ n && n ≤ 0xDFFF

/-- What holds the code point of an escape, from behind its `u`. A second escape directly behind
joins with the first when the two are a pair of surrogates. -/
def readCode (s : List Char) : Except Problem (Read (List Char) s) :=
  match h : readUnit? s with
  | none => .error (.located .codeEscape (s.length + 1))
  | some (n, r) =>
    have hr := readUnit?_length h
    let alone : Read (List Char) s := ⟨Text.charsOf n, r, by omega⟩
    if isHigh n then
      match hp : r with
      | '\\' :: 'u' :: t =>
        if t.length ≤ 4 then .ok alone
        else match ht : readUnit? t with
          | none => .error (.located .codeEscape (t.length + 1))
          | some (m, u) =>
            if isLow m then
              .ok ⟨Text.charsOf (Text.joinPair n m), u, by
                have := readUnit?_length ht
                simp only [List.length_cons] at hr
                omega⟩
            else .ok alone
      | _ => .ok alone
    else .ok alone

/-- What holds the character of an escape, from behind its backslash. -/
def readEscape (start : Nat) (s : List Char) : Except Problem (Read (List Char) s) :=
  match s with
  | [] => .error (.located .unterminated start)
  | 'u' :: r => match readCode r with
    | .error p => .error p
    | .ok ⟨cs, t, h⟩ => .ok ⟨cs, t, by simp only [List.length_cons]; omega⟩
  | c :: r =>
    let plain (d : Char) : Except Problem (Read (List Char) (c :: r)) := .ok ⟨[d], r, by simp⟩
    if c = '"' then plain '"'
    else if c = '\\' then plain '\\'
    else if c = '/' then plain '/'
    else if c = 'b' then plain '\x08'
    else if c = 'f' then plain '\x0c'
    else if c = 'n' then plain '\n'
    else if c = 'r' then plain '\r'
    else if c = 't' then plain '\t'
    else .error (.located .escape (r.length + 2))

/-- The characters up to the closing quote; `start` is what was left at the opening one. -/
def readText (start : Nat) (s : List Char) : Except Problem (Read (List Char) s) :=
  match s with
  | [] => .error (.located .unterminated start)
  | '"' :: r => .ok ⟨[], r, by simp⟩
  | '\\' :: r => match readEscape start r with
    | .error p => .error p
    | .ok ⟨held, t, h⟩ => match readText start t with
      | .error p => .error p
      | .ok ⟨cs, u, hu⟩ => .ok ⟨held ++ cs, u, by simp only [List.length_cons]; omega⟩
  | c :: r =>
    if c.toNat < 32 then .error (.located .control (r.length + 1))
    else match readText start r with
      | .error p => .error p
      | .ok ⟨cs, u, hu⟩ => .ok ⟨c :: cs, u, by simp only [List.length_cons]; omega⟩
termination_by s.length
decreasing_by all_goals simp only [List.length_cons] at *; omega

/-! ### Numbers -/

/-- A run of digits and what follows it. -/
def splitDigits (s : List Char) : List Char × List Char :=
  (s.takeWhile Char.isDigit, s.dropWhile Char.isDigit)

/-- The digits before the point: zero alone, or a run that starts with another digit. -/
def splitWhole : List Char → List Char × List Char
  | '0' :: r => (['0'], r)
  | s => splitDigits s

/-- The digits behind a point; a point without digits is left alone. -/
def splitPart : List Char → List Char × List Char
  | '.' :: r => if (splitDigits r).1.isEmpty then ([], '.' :: r) else splitDigits r
  | s => ([], s)

/-- An exponent, if there is one: whether it is negative, and its digits. -/
def splitExponent (s : List Char) : Option (Bool × List Char) × List Char :=
  match s with
  | e :: r =>
    if e = 'e' || e = 'E' then
      let (down, ds) := Double.splitSign r
      let (ds, t) := splitDigits ds
      if ds.isEmpty then (none, s) else (some (down, ds), t)
    else (none, s)
  | [] => (none, [])

/-- A number: an integer, unless it has a point or an exponent. -/
def numberOf (limits : Limits) (negative : Bool) (whole part : List Char)
    (e : Option (Bool × List Char)) : Except Fault Value :=
  match part, e with
  | [], none =>
    let n : Int := Double.ofDigits whole
    if limits.digits < whole.length then .error (.tooManyDigits limits.digits whole.length)
    else .ok (.int (if negative then -n else n))
  | part, e =>
    let shift : Int := match e with
      | none => 0
      | some (down, ds) => if down then -(Double.ofDigits ds : Int) else Double.ofDigits ds
    .ok (.float (Double.ofDecimal negative (Double.decimal whole part shift)))

/-- A number and what follows it, if a text starts with one. -/
def splitNumber? (limits : Limits) (s : List Char) : Option (Except Fault Value × List Char) :=
  let (negative, r) := match s with
    | '-' :: r => (true, r)
    | r => (false, r)
  let (whole, r) := splitWhole r
  if whole.isEmpty then none
  else
    let (part, r) := splitPart r
    let (e, r) := splitExponent r
    some (numberOf limits negative whole part e, r)

def readNumber (limits : Limits) (s : List Char) : Except Problem (Read Value s) :=
  match splitNumber? limits s with
  | none => .error (.located .value s.length)
  | some (.error f, _) => .error (.beyond f)
  | some (.ok v, r) =>
    if h : r.length < s.length then .ok ⟨v, r, h⟩ else .error (.located .value s.length)

/-! ### Values -/

def words : List (List Char × Value) :=
  [("null".toList, .null), ("true".toList, .bool true), ("false".toList, .bool false),
    ("NaN".toList, .float (Double.nan 0)), ("Infinity".toList, .float (Double.infinity false)),
    ("-Infinity".toList, .float (Double.infinity true))]

/-- The word that a text starts with. -/
def readWord? (s : List Char) : Option (Read Value s) :=
  words.findSome? fun w =>
    let r := s.drop w.1.length
    if w.1.isPrefixOf s then if h : r.length < s.length then some ⟨w.2, r, h⟩ else none else none

/-- The dictionary of members: of equal keys the first place and the last value. -/
def dictOf (members : List (String × Value)) : Value :=
  let m := members.foldl (fun (m : Assoc String Value) e => Assoc.put m e.1 e.2) []
  .dict (m.map fun e => (.text e.1, e.2))

def tooDeep (whole : String) : Problem :=
  .beyond (.tooDeep (" while decoding a JSON " ++ whole ++ " from a unicode string"))

mutual

/-- A value; `room` is how deep it may reach. -/
def readValue (limits : Limits) (room : Nat) (s : List Char) : Except Problem (Read Value s) :=
  match s with
  | '"' :: r => match readText (r.length + 1) r with
    | .error p => .error p
    | .ok ⟨cs, t, h⟩ => .ok ⟨.text (String.ofList cs), t, by simp only [List.length_cons]; omega⟩
  | '[' :: r => if room = 0 then .error (tooDeep "array") else match h : skipBlank r with
    | ']' :: t => .ok ⟨.list [], t, by
        have := skipBlank_length_of_eq h
        simp only [List.length_cons] at *
        omega⟩
    | t => match readItems limits (room - 1) t with
      | .error p => .error p
      | .ok ⟨vs, u, hu⟩ => .ok ⟨.list vs, u, by
          have := skipBlank_length_of_eq h
          simp only [List.length_cons]
          omega⟩
  | '\x7b' :: r => if room = 0 then .error (tooDeep "object") else match h : skipBlank r with
    | '\x7d' :: t => .ok ⟨.dict [], t, by
        have := skipBlank_length_of_eq h
        simp only [List.length_cons] at *
        omega⟩
    | t => match readMembers limits (room - 1) t with
      | .error p => .error p
      | .ok ⟨es, u, hu⟩ => .ok ⟨dictOf es, u, by
          have := skipBlank_length_of_eq h
          simp only [List.length_cons]
          omega⟩
  | s => match readWord? s with
    | some r => .ok r
    | none => readNumber limits s
termination_by (s.length, 0)
decreasing_by
  all_goals
    have := skipBlank_length_of_eq h
    simp only [List.length_cons]
    exact Prod.Lex.left _ _ (by omega)

/-- The items of an array from the first one on. -/
def readItems (limits : Limits) (room : Nat) (s : List Char) :
    Except Problem (Read (List Value) s) :=
  match readValue limits room s with
  | .error p => .error p
  | .ok ⟨v, r, hr⟩ => match h : skipBlank r with
    | ']' :: t => .ok ⟨[v], t, by
        have := skipBlank_length_of_eq h
        simp only [List.length_cons] at *
        omega⟩
    | ',' :: t => match readItems limits room (skipBlank t) with
      | .error p => .error p
      | .ok ⟨vs, u, hu⟩ => .ok ⟨v :: vs, u, by
          have := skipBlank_length_of_eq h
          have := skipBlank_length t
          simp only [List.length_cons] at *
          omega⟩
    | t => .error (.located .comma t.length)
termination_by (s.length, 1)
decreasing_by
  · exact Prod.Lex.right _ (by omega)
  · have := skipBlank_length_of_eq h
    have := skipBlank_length t
    simp only [List.length_cons] at *
    exact Prod.Lex.left _ _ (by omega)

/-- The members of an object from the first one on. -/
def readMembers (limits : Limits) (room : Nat) (s : List Char) :
    Except Problem (Read (List (String × Value)) s) :=
  match s with
  | '"' :: r => match readText (r.length + 1) r with
    | .error p => .error p
    | .ok ⟨key, t, ht⟩ => match h : skipBlank t with
      | ':' :: u => match readValue limits room (skipBlank u) with
        | .error p => .error p
        | .ok ⟨v, w, hw⟩ => match h' : skipBlank w with
          | '\x7d' :: x => .ok ⟨[(String.ofList key, v)], x, by
              have := skipBlank_length_of_eq h
              have := skipBlank_length u
              have := skipBlank_length_of_eq h'
              simp only [List.length_cons] at *
              omega⟩
          | ',' :: x => match readMembers limits room (skipBlank x) with
            | .error p => .error p
            | .ok ⟨es, y, hy⟩ => .ok ⟨(String.ofList key, v) :: es, y, by
                have := skipBlank_length_of_eq h
                have := skipBlank_length u
                have := skipBlank_length_of_eq h'
                have := skipBlank_length x
                simp only [List.length_cons] at *
                omega⟩
          | x => .error (.located .comma x.length)
      | u => .error (.located .colon u.length)
  | s => .error (.located .propertyName s.length)
termination_by (s.length, 1)
decreasing_by
  · have := skipBlank_length_of_eq h
    have := skipBlank_length u
    simp only [List.length_cons] at *
    exact Prod.Lex.left _ _ (by omega)
  · have := skipBlank_length_of_eq h
    have := skipBlank_length u
    have := skipBlank_length_of_eq h'
    have := skipBlank_length x
    simp only [List.length_cons] at *
    exact Prod.Lex.left _ _ (by omega)

end

/-! ### Documents -/

/-- A problem located in a text by what stands before it, in code points: lines end at line feeds
and, like columns, count from one. -/
def locate (s : List Char) : Problem → Fault
  | .located kind left =>
    let before := Text.codesOf (s.take (s.length - left))
    let column := (before.reverse.takeWhile fun n => n ≠ 10).length + 1
    .document kind (before.count 10 + 1) column before.length
  | .beyond f => f

def readDocument (limits : Limits) (s : List Char) : Except Problem Value :=
  match readValue limits limits.depth (skipBlank s) with
  | .error p => .error p
  | .ok ⟨v, r, _⟩ => match skipBlank r with
    | [] => .ok v
    | t => .error (.located .extra t.length)

def decode (limits : Limits) (s : List Char) : Except Fault Value :=
  (readDocument limits s).mapError (locate s)

/-- The value of a text or of the bytes of one. A text must not begin with a byte order mark. -/
def load (limits : Limits) : Value → Except Fault Value
  | .text s =>
    if s.toList.head? = some '\uFEFF' then
      .error (locate s.toList (.located .byteOrderMark s.toList.length))
    else decode limits s.toList
  | .bytes bs => do decode limits (← Text.decode bs)
  | v => .error (.notDocument v.typeName)

end RecordSql.Json
