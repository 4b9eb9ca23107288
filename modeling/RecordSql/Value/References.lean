import RecordSql.Value

/-! The collections, objects and feeds that a value refers to, the value that refers to others in
their place, and the serial numbers of its collections. -/

namespace RecordSql

/-- A change of numbers. -/
abbrev Renaming := Reference → Nat

namespace Value

/-- The reference to a collection that is held. -/
def serialReference (serial : Nat) : List Reference :=
  if serial = 0 then [] else [.collection serial]

/-- Whether two values are one: objects, feeds and members by what they refer to, and plain values
that there is only one of. -/
def isOne : Value → Value → Bool
  | null, null => true
  | bool a, bool b => a == b
  | int m, int n => m == n && -5 ≤ m && m ≤ 256
  | text s, text t => s == t && s.length ≤ 1
  | feed i, feed j => i == j
  | object i _, object j _ => i == j
  | member _ s, member _ t => s == t
  | _, _ => false

mutual

def references : Value → List Reference
  | list l n | tuple l n | set l n | fixedSet l n => serialReference n ++ referencesOf l
  | dict es n => serialReference n ++ entryReferences es
  | literal v n => serialReference n ++ v.references
  | operator t v n => serialReference n ++ t.references ++ v.references
  | feed i => [.feed i]
  | object i _ => [.object i]
  | _ => []

def referencesOf : List Value → List Reference
  | [] => []
  | v :: l => v.references ++ referencesOf l

def entryReferences : List (Value × Value) → List Reference
  | [] => []
  | (k, v) :: es => k.references ++ v.references ++ entryReferences es

end

/-- The serial number in place of another one. -/
def renamedSerial (f : Renaming) (serial : Nat) : Nat :=
  if serial = 0 then 0 else f (.collection serial)

mutual

/-- The value with every number changed. -/
def renamed (f : Renaming) : Value → Value
  | list l n => list (renamedAll f l) (renamedSerial f n)
  | tuple l n => tuple (renamedAll f l) (renamedSerial f n)
  | set l n => set (renamedAll f l) (renamedSerial f n)
  | fixedSet l n => fixedSet (renamedAll f l) (renamedSerial f n)
  | dict es n => dict (renamedEntries f es) (renamedSerial f n)
  | literal v n => literal (v.renamed f) (renamedSerial f n)
  | operator t v n => operator (t.renamed f) (v.renamed f) (renamedSerial f n)
  | feed i => feed (f (.feed i))
  | object i c => object (f (.object i)) c
  | v => v

def renamedAll (f : Renaming) : List Value → List Value
  | [] => []
  | v :: l => v.renamed f :: renamedAll f l

def renamedEntries (f : Renaming) : List (Value × Value) → List (Value × Value)
  | [] => []
  | (k, v) :: es => (k.renamed f, v.renamed f) :: renamedEntries f es

end

/-! ### Serial numbers -/

/-- The serial number of a collection, a new one if it has none, and the next new one. -/
def issue (next serial : Nat) : Nat × Nat := if serial = 0 then (next, next + 1) else (serial, next)

mutual

/-- The value with a serial number for every collection, and the next one that is free. -/
def numbered (next : Nat) : Value → Value × Nat
  | list l n =>
    let (n, next) := issue next n
    let (l, next) := numberedAll next l
    (list l n, next)
  | tuple l n =>
    let (n, next) := issue next n
    let (l, next) := numberedAll next l
    (tuple l n, next)
  | set l n =>
    let (n, next) := issue next n
    let (l, next) := numberedAll next l
    (set l n, next)
  | fixedSet l n =>
    let (n, next) := issue next n
    let (l, next) := numberedAll next l
    (fixedSet l n, next)
  | dict es n =>
    let (n, next) := issue next n
    let (es, next) := numberedEntries next es
    (dict es n, next)
  | literal v n =>
    let (n, next) := issue next n
    let (v, next) := v.numbered next
    (literal v n, next)
  | operator t v n =>
    let (n, next) := issue next n
    let (t, next) := t.numbered next
    let (v, next) := v.numbered next
    (operator t v n, next)
  | v => (v, next)

def numberedAll (next : Nat) : List Value → List Value × Nat
  | [] => ([], next)
  | v :: l =>
    let (v, next) := v.numbered next
    let (l, next) := numberedAll next l
    (v :: l, next)

def numberedEntries (next : Nat) : List (Value × Value) → List (Value × Value) × Nat
  | [] => ([], next)
  | (k, v) :: es =>
    let (k, next) := k.numbered next
    let (v, next) := v.numbered next
    let (es, next) := numberedEntries next es
    ((k, v) :: es, next)

end

end Value

end RecordSql
