import RecordSql.Fault

/-! Parameters: how many arguments a function takes. -/

namespace RecordSql

/-- The parameters of a function; those behind the first `needed` ones may be left out. -/
structure Parameters where
  names : List String
  needed : Nat

namespace Parameters

/-- Parameters that must all be given. -/
def all (names : List String) : Parameters := ⟨names, names.length⟩

/-- Whether some number of arguments will do. A function may take further ones, which its caller
does not give and which are counted none the less. -/
def check (p : Parameters) (function : String) (further given : Nat) : Except Fault Unit :=
  let most := p.names.length
  if most < given then
    .error (.surplusArguments function (p.needed + further) (most + further) (given + further))
  else if given < p.needed then
    .error (.missingArguments function ((p.names.take p.needed).drop given))
  else .ok ()

end Parameters

end RecordSql
