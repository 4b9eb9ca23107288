import RecordSql.Record.TypeToken

/-! Terms of type expressions, and how they are read off tokens.

Signs between two terms bind by level, the loosest first: alternatives, conditions, comparisons and
calculations, and those of a level from left to right. -/

namespace RecordSql

/-- Where one of several terms stands: in a text as a whole, between brackets or braces, between
brackets behind a term, among the entries of a dictionary, or among arguments. -/
inductive TermPlace where
  | whole
  | item
  | index
  | entry
  | argument

inductive Gathered where
  | series
  | set
  | dict

mutual

/-- A term: a name, a constant, a text with terms in some places, an attribute or an item of a term,
a part of what lies in a row, a call, a term behind a sign, two terms with a sign between them, what
is true of terms, a choice by a condition, several terms together, terms gathered from others, and a
term with a name for it. Among several terms, items of what is gone through and entries of
dictionaries may be spread, arguments may have names, and entries of dictionaries have keys. -/
inductive TypeTerm where
  | name (s : String)
  | constant (v : Value)
  | filled (pieces : List TypeTerm)
  | told (t : TypeTerm) (form : TextForm)
  | part (t : TypeTerm) (name : String)
  | item (t index : TypeTerm)
  | slice (low high step : TypeTerm)
  | call (t : TypeTerm) (args : List TypeTerm)
  | signed (sign : String) (t : TypeTerm)
  | joined (sign : String) (a b : TypeTerm)
  | compared (sign : String) (a b : TypeTerm)
  | not (t : TypeTerm)
  | both (a b : TypeTerm)
  | first (a b : TypeTerm)
  | chosen (test yes no : TypeTerm)
  | row (items : List TypeTerm)
  | series (items : List TypeTerm)
  | set (items : List TypeTerm)
  | dict (items : List TypeTerm)
  | gathered (kind : Gathered) (g : Gathering)
  | bound (name : String) (t : TypeTerm)
  | spread (t : TypeTerm)
  | spreadEntries (t : TypeTerm)
  | entry (key value : TypeTerm)
  | keyword (name : String) (t : TypeTerm)

/-- What is gathered: a term; what another gathering yields for each item of a term, under some
names; and what it yields if a condition holds. A single name stands for the whole item. -/
inductive Gathering where
  | item (t : TypeTerm)
  | forEach (names : List String) (isSingle : Bool) (source : TypeTerm) (g : Gathering)
  | onlyIf (test : TypeTerm) (g : Gathering)

end

namespace TypeTerm

/-! ### Terms from their parts -/

/-- Several terms as one: a single one that no comma follows is itself. -/
def together (isSingle : Bool) : List TypeTerm → TypeTerm
  | [t] => if isSingle then t else row [t]
  | l => row l

/-- What stands between the brackets behind a term. -/
def indexOf (isSingle : Bool) : List TypeTerm → TypeTerm
  | [spread t] => row [spread t]
  | l => together isSingle l

def isSpread : TypeTerm → Bool
  | spread _ => true
  | _ => false

def isEntry : TypeTerm → Bool
  | entry .. | spreadEntries _ => true
  | _ => false

def isNamed : TypeTerm → Bool
  | keyword .. | spreadEntries _ => true
  | _ => false

/-- Whether arguments without names stand in front of those with names. -/
def areOrdered : List TypeTerm → Bool
  | [] => true
  | t :: l => areOrdered l && match t with
    | keyword .. => l.all fun t => t.isNamed || t.isSpread
    | spreadEntries _ => l.all isNamed
    | _ => true

/-- A text in the places of which other terms may be. -/
def ofPieces (pieces : List TypeTerm) : TypeTerm :=
  let text? : TypeTerm → Option String
    | constant (.text s) => some s
    | _ => none
  match pieces.mapM text? with
  | some l => constant (.text (String.join l))
  | none => filled pieces

/-- Two terms with a sign of a level between them. -/
def join : Nat → String → TypeTerm → TypeTerm → TypeTerm
  | 0, _, a, b => first a b
  | 1, _, a, b => both a b
  | _, sign, a, b => joined sign a b

/-! ### Signs -/

def comparisonLevel : Nat := 2

def signedLevel : Nat := 9

def signsAt : Nat → List String
  | 0 => ["or"]
  | 1 => ["and"]
  | 3 => ["|"]
  | 4 => ["^"]
  | 5 => ["&"]
  | 6 => ["<<", ">>"]
  | 7 => ["+", "-"]
  | 8 => ["*", "/", "//", "%", "@"]
  | _ => []

def signAt? (level : Nat) : List TypeToken → Option (String × List TypeToken)
  | .mark s :: tokens => if (signsAt level).contains s then some (s, tokens) else none
  | _ => none

def comparison? : List TypeToken → Option (String × List TypeToken)
  | .mark "not" :: .mark "in" :: tokens => some ("not in", tokens)
  | .mark "is" :: .mark "not" :: tokens => some ("is not", tokens)
  | .mark s :: tokens =>
    if ["in", "is", "==", "!=", "<", "<=", ">", ">="].contains s then some (s, tokens) else none
  | _ => none

/-! ### Reading -/

def behind? (s : String) : List TypeToken → Option (List TypeToken)
  | .mark t :: tokens => if s = t then some tokens else none
  | _ => none

/-- The names, with commas between them, that items are given one by one, and whether there is one
for the whole item. -/
def readNames? : List TypeToken → Option (List String × Bool × List TypeToken)
  | .name s :: .mark "," :: tokens => match readNames? tokens with
    | some (l, _, tokens) => some (s :: l, false, tokens)
    | none => some ([s], false, tokens)
  | .name s :: tokens => some ([s], true, tokens)
  | _ => none

/-- The names for items, perhaps in brackets. -/
def readTarget? (tokens : List TypeToken) : Option (List String × Bool × List TypeToken) := do
  match tokens with
  | .mark "(" :: tokens =>
    let (l, isSingle, tokens) ← readNames? tokens
    return (l, isSingle, ← behind? ")" tokens)
  | tokens => readNames? tokens

/-- The byte strings that tokens begin with, which are one. -/
def bytesOf : List TypeToken → List UInt8 × List TypeToken
  | .bytes bs :: tokens =>
    let (l, tokens) := bytesOf tokens
    (bs ++ l, tokens)
  | tokens => ([], tokens)

def startsText : List TypeToken → Bool
  | .text _ :: _ => true
  | _ => false

/-- The byte string that tokens begin with; no text stands beside it. -/
def bytes? (tokens : List TypeToken) : Option (TypeTerm × List TypeToken) :=
  match tokens with
  | .bytes _ :: _ =>
    let (bs, tokens) := bytesOf tokens
    if startsText tokens then none else some (constant (.bytes bs), tokens)
  | _ => none

/-- Puts what is gathered inside the parts of a gathering, the first of which is the outermost. -/
def gather (parts : List (Gathering → Gathering)) (t : TypeTerm) : Gathering :=
  parts.foldr (fun part g => part g) (.item t)

mutual

/-- Reads a term. Every step takes some of the room. -/
def readTerm? : Nat → List TypeToken → Option (TypeTerm × List TypeToken)
  | 0, _ => none
  | room + 1, tokens => do
    let (yes, tokens) ← readLevel? room 0 tokens
    match tokens with
    | .mark "if" :: tokens =>
      let (test, tokens) ← readLevel? room 0 tokens
      let (no, tokens) ← readTerm? room (← behind? "else" tokens)
      return (chosen test yes no, tokens)
    | tokens => return (yes, tokens)

/-- Reads a term with signs of a level and of those that bind more. -/
def readLevel? : Nat → Nat → List TypeToken → Option (TypeTerm × List TypeToken)
  | 0, _, _ => none
  | room + 1, level, tokens => do
    if level = signedLevel then readSigned? room tokens
    else if level = comparisonLevel then
      match tokens with
      | .mark "not" :: tokens =>
        let (t, tokens) ← readLevel? room level tokens
        return (not t, tokens)
      | tokens =>
        let (a, tokens) ← readLevel? room (level + 1) tokens
        if (comparison? tokens).isSome then readChain? room a tokens else return (a, tokens)
    else
      let (a, tokens) ← readLevel? room (level + 1) tokens
      readFurther? room level a tokens

/-- Reads what signs of a level add to a term. -/
def readFurther? : Nat → Nat → TypeTerm → List TypeToken → Option (TypeTerm × List TypeToken)
  | 0, _, _, _ => none
  | room + 1, level, a, tokens => do
    match signAt? level tokens with
    | none => return (a, tokens)
    | some (sign, tokens) =>
      let (b, tokens) ← readLevel? room (level + 1) tokens
      readFurther? room level (join level sign a b) tokens

/-- Reads the comparisons of a term with the next one, of that with the one behind it, and so on,
which hold together. -/
def readChain? : Nat → TypeTerm → List TypeToken → Option (TypeTerm × List TypeToken)
  | 0, _, _ => none
  | room + 1, a, tokens => do
    let (sign, tokens) ← comparison? tokens
    let (b, tokens) ← readLevel? room (comparisonLevel + 1) tokens
    if (comparison? tokens).isNone then return (compared sign a b, tokens)
    let (further, tokens) ← readChain? room b tokens
    return (both (compared sign a b) further, tokens)

/-- Reads a term, perhaps behind a sign. A power binds more than a sign in front of it, and less
than one behind it. -/
def readSigned? : Nat → List TypeToken → Option (TypeTerm × List TypeToken)
  | 0, _ => none
  | room + 1, tokens => do
    match tokens with
    | .mark s :: rest =>
      if ["+", "-", "~"].contains s then
        let (t, rest) ← readSigned? room rest
        return (signed s t, rest)
    | _ => pure ()
    let (a, tokens) ← readWhole? room tokens
    match tokens with
    | .mark "**" :: tokens =>
      let (b, tokens) ← readSigned? room tokens
      return (joined "**" a b, tokens)
    | tokens => return (a, tokens)

/-- Reads a term without signs, with what follows it and belongs to it. -/
def readWhole? : Nat → List TypeToken → Option (TypeTerm × List TypeToken)
  | 0, _ => none
  | room + 1, tokens => do
    match tokens with
    | .name s :: tokens => readSuffixes? room (name s) tokens
    | .constant v :: tokens => readSuffixes? room (constant v) tokens
    | .mark "(" :: tokens =>
      match ← readItems? room ")" .item tokens with
      | ([spread _], true, _) => none
      | (l, isSingle, tokens) => readSuffixes? room (together isSingle l) tokens
    | .mark "[" :: .mark "]" :: tokens => readSuffixes? room (series []) tokens
    | .mark "[" :: tokens =>
      let (t, tokens) ← readItem? room .item tokens
      match tokens with
      | .mark "for" :: _ =>
        if t.isSpread then none
        let (parts, tokens) ← readParts? room tokens
        readSuffixes? room (gathered .series (gather parts t)) (← behind? "]" tokens)
      | tokens =>
        let (l, _, tokens) ← readBehind? room "]" .item tokens
        readSuffixes? room (series (t :: l)) tokens
    | .mark "\x7b" :: .mark "\x7d" :: tokens => readSuffixes? room (dict []) tokens
    | .mark "\x7b" :: tokens =>
      let (t, tokens) ← readEntry? room tokens
      let isDict := t.isEntry
      match tokens with
      | .mark "for" :: _ =>
        match t with
        | spread _ | spreadEntries _ => none
        | _ => pure ()
        let (parts, tokens) ← readParts? room tokens
        let kind := if isDict then Gathered.dict else .set
        readSuffixes? room (gathered kind (gather parts t)) (← behind? "\x7d" tokens)
      | tokens =>
        let (l, _, tokens) ← readBehind? room "\x7d" (if isDict then .entry else .item) tokens
        if isDict && !l.all isEntry then none
        readSuffixes? room (if isDict then dict (t :: l) else set (t :: l)) tokens
    | tokens =>
      if startsText tokens then
        let (pieces, tokens) ← readText? room tokens
        readSuffixes? room (ofPieces pieces) tokens
      else
        let (t, tokens) ← bytes? tokens
        readSuffixes? room t tokens

/-- Reads the texts that tokens begin with, which are one, with the terms in their places. -/
def readText? : Nat → List TypeToken → Option (List TypeTerm × List TypeToken)
  | 0, _ => none
  | room + 1, tokens => do
    match tokens with
    | .text pieces :: tokens =>
      let front ← readPieces? room pieces
      let (l, tokens) ← readText? room tokens
      return (front ++ l, tokens)
    | .bytes _ :: _ => none
    | tokens => return ([], tokens)

def readPieces? : Nat → List TextPiece → Option (List TypeTerm)
  | 0, _ => none
  | _ + 1, [] => some []
  | room + 1, .plain s :: pieces => do
    return constant (.text s) :: (← readPieces? room pieces)
  | room + 1, .place source form :: pieces => do
    let (t, rest) ← readTerm? room (← TypeToken.ofText? ("(" ++ source ++ ")"))
    if !rest.isEmpty then none
    return told t form :: (← readPieces? room pieces)

/-- Reads for which items and under which conditions a term is gathered. -/
def readParts? : Nat → List TypeToken → Option (List (Gathering → Gathering) × List TypeToken)
  | 0, _ => none
  | room + 1, tokens => do
    match tokens with
    | .mark "for" :: tokens =>
      let (names, isSingle, tokens) ← readTarget? tokens
      let (source, tokens) ← readLevel? room 0 (← behind? "in" tokens)
      let (parts, tokens) ← readParts? room tokens
      return (.forEach names isSingle source :: parts, tokens)
    | .mark "if" :: tokens =>
      let (test, tokens) ← readLevel? room 0 tokens
      let (parts, tokens) ← readParts? room tokens
      return (.onlyIf test :: parts, tokens)
    | tokens => return ([], tokens)

/-- Reads what follows a term and belongs to it. -/
def readSuffixes? : Nat → TypeTerm → List TypeToken → Option (TypeTerm × List TypeToken)
  | 0, _, _ => none
  | room + 1, t, tokens => do
    match tokens with
    | .mark "." :: .name s :: tokens => readSuffixes? room (part t s) tokens
    | .mark "." :: _ => none
    | .mark "[" :: tokens =>
      let (l, isSingle, tokens) ← readItems? room "]" .index tokens
      if l.isEmpty then none else readSuffixes? room (item t (indexOf isSingle l)) tokens
    | .mark "(" :: tokens =>
      let (l, _, tokens) ← readItems? room ")" .argument tokens
      if areOrdered l then readSuffixes? room (call t l) tokens else none
    | tokens => return (t, tokens)

/-- Reads terms up to a closing mark, and whether there is one that no comma follows. -/
def readItems? : Nat → String → TermPlace → List TypeToken →
    Option (List TypeTerm × Bool × List TypeToken)
  | 0, _, _, _ => none
  | room + 1, close, place, tokens => do
    match behind? close tokens with
    | some tokens => return ([], false, tokens)
    | none =>
      let (t, tokens) ← readItem? room place tokens
      let (l, isLast, tokens) ← readBehind? room close place tokens
      return (t :: l, isLast, tokens)

/-- Reads what follows one of several terms, and whether the closing mark does. -/
def readBehind? : Nat → String → TermPlace → List TypeToken →
    Option (List TypeTerm × Bool × List TypeToken)
  | 0, _, _, _ => none
  | room + 1, close, place, tokens => do
    match behind? close tokens with
    | some tokens => return ([], true, tokens)
    | none =>
      let (l, _, tokens) ← readItems? room close place (← behind? "," tokens)
      return (l, false, tokens)

/-- Reads one of several terms. Terms may be spread or have names, and arguments may be spread by
their names; between brackets behind a term may be bounds of a part. -/
def readItem? : Nat → TermPlace → List TypeToken → Option (TypeTerm × List TypeToken)
  | 0, _, _ => none
  | room + 1, place, tokens => do
    match place, tokens with
    | .entry, tokens => readEntry? room tokens
    | .argument, .mark "**" :: tokens =>
      let (t, tokens) ← readTerm? room tokens
      return (spreadEntries t, tokens)
    | .argument, .name s :: .mark "=" :: tokens =>
      let (t, tokens) ← readTerm? room tokens
      return (keyword s t, tokens)
    | .argument, .mark "*" :: tokens =>
      let (t, tokens) ← readTerm? room tokens
      return (spread t, tokens)
    | _, .mark "*" :: tokens =>
      let (t, tokens) ← readLevel? room (comparisonLevel + 1) tokens
      return (spread t, tokens)
    | .whole, tokens => readTerm? room tokens
    | _, .name s :: .mark ":=" :: tokens =>
      let (t, tokens) ← readTerm? room tokens
      return (bound s t, tokens)
    | .index, tokens =>
      let (low, tokens) ← readBound? room tokens
      match tokens, low with
      | .mark ":" :: tokens, low =>
        let (high, tokens) ← readBound? room tokens
        let (step, tokens) ← match tokens with
          | .mark ":" :: tokens => readBound? room tokens
          | tokens => some (none, tokens)
        let orNull (t : Option TypeTerm) : TypeTerm := t.getD (constant .null)
        return (slice (orNull low) (orNull high) (orNull step), tokens)
      | tokens, some t => return (t, tokens)
      | _, none => none
    | .argument, tokens =>
      let (t, tokens) ← readTerm? room tokens
      match tokens with
      | .mark "for" :: _ =>
        let (parts, tokens) ← readParts? room tokens
        return (gathered .series (gather parts t), tokens)
      | tokens => return (t, tokens)
    | .item, tokens => readTerm? room tokens

/-- Reads a bound of a part of a row, which may be left out. -/
def readBound? : Nat → List TypeToken → Option (Option TypeTerm × List TypeToken)
  | 0, _ => none
  | room + 1, tokens => do
    match tokens with
    | .mark s :: _ => if [":", ",", "]"].contains s then return (none, tokens)
    | _ => pure ()
    let (t, tokens) ← readTerm? room tokens
    return (some t, tokens)

/-- Reads an entry of a dictionary, or an item of a set. -/
def readEntry? : Nat → List TypeToken → Option (TypeTerm × List TypeToken)
  | 0, _ => none
  | room + 1, tokens => do
    match tokens with
    | .mark "**" :: tokens =>
      let (t, tokens) ← readLevel? room (comparisonLevel + 1) tokens
      return (spreadEntries t, tokens)
    | tokens =>
      let (t, tokens) ← readItem? room .item tokens
      match tokens with
      | .mark ":" :: tokens =>
        match t with
        | spread _ | bound .. => none
        | _ => pure ()
        let (v, tokens) ← readTerm? room tokens
        return (entry t v, tokens)
      | tokens => return (t, tokens)

end

/-! ### Texts -/

/-- How much room a character takes: a step for each level, and some for what lies between. -/
def roomOfCharacter : Nat := 20

def ofText? (s : String) : Option TypeTerm := do
  let tokens ← TypeToken.ofText? s
  let room := roomOfCharacter * (s.length + 2)
  let (l, isSingle, rest) ← readItems? room ")" .whole (tokens ++ [.mark ")"])
  if !rest.isEmpty || l.isEmpty || l.any isSpread then none else return together isSingle l

end TypeTerm

end RecordSql
