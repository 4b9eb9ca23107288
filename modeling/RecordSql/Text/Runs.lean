/-! Runs of characters, by their code points. -/

namespace RecordSql.Text

/-- Whether a character lies in one of some runs, each from a first code point to a last one. -/
def inRuns (runs : List (Nat × Nat)) (c : Char) : Bool :=
  runs.any fun run => run.1 ≤ c.toNat && c.toNat ≤ run.2

end RecordSql.Text
