import RecordSql.World.Display

/-! The signature of a class with a constructor for its fields. The class may have something else in
the place of its constructor or of the signature itself, and no value has a signature: looking for
it ends in a fault then. -/

namespace RecordSql.World

def attribute? (w : World) (v : Value) (name : String) : Except Fault (Option Value) :=
  Fault.ifPresent (w.attributeOf v name)

/-- What a value wraps, unless it has a signature, through so many wrappings at most. -/
def unwrapped (w : World) (first : Value) : Nat → List Nat → Value → Except Fault Value
  | 0, _, _ => .error (.wrappedInItself first)
  | depth + 1, seen, v => do
    match ← w.attribute? v "__wrapped__" with
    | none => return v
    | some inner =>
      if (← w.attribute? v "__signature__").isSome then return v
      match inner with
      | .object i c =>
        if seen.contains i then throw (.wrappedInItself first)
        else unwrapped w first depth (i :: seen) (.object i c)
      | inner => return inner

/-- What a value wraps in the end. No chain of different objects is longer than their number. -/
def innermost (w : World) (first v : Value) : Except Fault Value :=
  let seen := match v with
    | .object i _ => [i]
    | _ => []
  w.unwrapped first (w.objects.length + 1) seen v

mutual

/-- What looking for the signature of a value ends in, where what its class has for calls is looked
at in turn, so many times at most. -/
def signatureFault (w : World) : Nat → Value → Except Fault Fault
  | 0, v => .ok (.noSignature v)
  | depth + 1, v => do
    if !v.isCallable w.rules then return .notFunction v
    w.innerFault depth (← w.innermost v v)

/-- What looking for the signature of a value that wraps no other ends in. -/
def innerFault (w : World) : Nat → Value → Except Fault Fault
  | 0, v => .ok (.noSignature v)
  | depth + 1, v => do
    match ← w.attribute? v "__signature__" with
    | none | some .null => match v with
      | .object _ (.declared c ..) =>
        if (← w.classAttribute? c "__get__").isSome && (← w.classAttribute? c "__set__").isNone then
          return .signatureNotFound "builtin " v
        match ← w.classAttribute? c "__call__" with
        | none | some .null | some (.member "method-wrapper" _) => return .noSignature v
        | some call =>
          let f ← w.signatureFault depth call
          return if f.kind = .value then .signatureNotFound "" v else f
      | v => return .noSignature v
    | some found => return .badSignature found

end

/-- A class whose constructor is its own has a signature, unless it has something in the place of
one. -/
def checkSignature (w : World) (c : Nat) : Except Fault Unit := do
  let own := (w.cls c).members
  let depth := 2 * w.classes.length + 2
  let found ← w.classAttribute? c "__signature__"
  match ← w.classAttribute? c "__wrapped__", found with
  | some inner, none => throw (← w.innerFault depth (← w.innermost (.cls (w.ref c)) inner))
  | _, _ =>
    if let some v := found then
      if !v.isNull then throw (.badSignature v)
    let maker ← w.classAttribute? c "__new__"
    let starter ← w.classAttribute? c "__init__"
    let given :=
      if Assoc.contains own "__new__" then maker
      else if Assoc.contains own "__init__" then starter
      else none
    match given with
    | none => return ()
    | some .null => throw (.signatureNotFound "builtin type " (.cls (w.ref c)))
    | some v => throw (← w.signatureFault depth v)

end RecordSql.World
