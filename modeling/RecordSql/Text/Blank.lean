/-! Blank characters, and texts that hold nothing else. -/

namespace RecordSql.Text

/-- The white space of Unicode: the ASCII controls and separators, and the spaces of the other
blocks. -/
def isBlankChar (c : Char) : Bool :=
  let n := c.toNat
  (9 ≤ n && n ≤ 13) || (28 ≤ n && n ≤ 32) || n == 0x85 || n == 0xA0 || n == 0x1680 ||
    (0x2000 ≤ n && n ≤ 0x200A) || n == 0x2028 || n == 0x2029 ||
    n == 0x202F || n == 0x205F || n == 0x3000

/-- A text is blank when nothing is left of it after trimming. -/
def isBlank (s : String) : Bool := s.toList.all isBlankChar

end RecordSql.Text
