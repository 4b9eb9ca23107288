import RecordSql.Builder.Routine

/-! Drafts: builders as their callers hold them, plain ones and altered ones, and the calls by name
that are made of them. -/

namespace RecordSql

/-- A builder as its methods left it, or one of which parts were put or removed by name. -/
inductive Draft where
  | plain (b : Builder)
  | altered (b : Altered)

namespace Draft

/-- What a call ends in: the builder itself, the statement, another value, an object that a class
makes of arguments, or an error. -/
inductive Reply where
  | self
  | statement (s : Statement)
  | value (v : Value)
  | making (cls : Nat) (args : List Value)
  | failed (e : Error)

def kind : Draft → BuilderKind
  | plain b => b.kind
  | altered b => b.kind

def toAltered : Draft → Altered
  | plain b => .of b
  | altered b => b

def entity : Draft → Except Fault Value
  | plain b => .ok b.entity
  | altered b => b.entity

/-- The text of the statement under construction. -/
def describe (objects : Objects) : Draft → Action Feeds String
  | plain b => Action.ofFault (b.describe objects)
  | altered b => b.describe objects

/-! ### Calls -/

/-- The arguments of a method must be as many as it takes. -/
def checkMethod (kind : BuilderKind) (method : String) (p : Parameters) (given : Nat) :
    Except Fault Unit :=
  p.check (kind.typeName ++ "." ++ method ++ "()") 1 given

def callPlain (cs : Contexts) (b : Builder) (method : String) (p : Parameters) (args : List Value)
    (on : Option OnClause) : Action Feeds (Draft × Reply) := do
  let step : Action Feeds Builder.Progress := do
    checkMethod b.kind method p args.length
    b.callMethod (cs .given) method args on
  match ← step.attempt with
  | .ok (.builder b) => return (plain b, .self)
  | .ok (.statement s) => return (plain b, .statement s)
  | .error e => return (plain b, .failed e)

/-- What is called of an altered builder: what its class has in any case, a part, a method, or what
else its class has. -/
def callNamed (cs : Contexts) (name : String) (args : List Value) (on : Option OnClause) :
    Altered.Step Reply := do
  let objects := cs.objects
  let b ← Altered.current
  let uncallable (v : Value) : Altered.Step Reply := Action.faulty (v.uncallable objects.rule)
  if name = "__class__" then return .value (← Altered.callFunction cs name args)
  else if ["__dict__", "__weakref__", "entity"].contains name then
    uncallable (← b.attr name)
  else match b.find? name, Assoc.get? b.kind.methods name with
    | some p, _ => match p.toValue with
      | .cls (.declared cls ..) => return .making cls args
      | _ => Action.faulty (p.uncallable objects)
    | none, some p =>
      checkMethod b.kind name p args.length
      if name = "build" then return .statement (← Altered.drawing (b.build cs))
      else
        Altered.callMethod objects name args on
        return .self
    | none, none => match Assoc.get? b.kind.classValues name with
      | some v => uncallable v
      | none =>
        if (Routine.find? Routine.universal name).isSome &&
            !List.contains ["__init__", "__repr__"] name then
          return .value (← Altered.callRoutine cs name args)
        else return .value (← Altered.callFunction cs name args)

/-- The functions that put or remove parts. -/
def altering : List String := ["__setattr__", "__delattr__", "__init__"]

/-- Calls what a builder has under a name. A plain builder stays one unless its parts are put or
removed by name. -/
def call (cs : Contexts) (d : Draft) (name : String) (args : List Value) (on : Option OnClause) :
    Action Feeds (Draft × Reply) := do
  match d, Assoc.get? d.kind.methods name with
  | plain b, some p => callPlain cs b name p args on
  | d, _ =>
    let (result, b) ← (callNamed cs name args on).attemptOn d.toAltered
    let reply := match result with
      | .ok reply => reply
      | .error e => .failed e
    match d with
    | plain _ => return (if altering.contains name then altered b else d, reply)
    | altered _ => return (altered b, reply)

end Draft

end RecordSql
