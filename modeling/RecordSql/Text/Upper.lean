/-! Upper case of the keywords of a statement, which are written in ASCII letters. -/

namespace RecordSql.Text

/-- The upper-case form of a character, when that form is written in ASCII letters; any other
character stands for itself, and no keyword holds it. -/
def upperChar (c : Char) : List Char :=
  match c.toNat with
  | 0xDF => ['S', 'S']
  | 0x131 => ['I']
  | 0x17F => ['S']
  | 0xFB00 => ['F', 'F']
  | 0xFB01 => ['F', 'I']
  | 0xFB02 => ['F', 'L']
  | 0xFB03 => ['F', 'F', 'I']
  | 0xFB04 => ['F', 'F', 'L']
  | 0xFB05 => ['S', 'T']
  | 0xFB06 => ['S', 'T']
  | _ => [c.toUpper]

def upperKeyword (s : String) : String := String.ofList (s.toList.flatMap upperChar)

end RecordSql.Text
