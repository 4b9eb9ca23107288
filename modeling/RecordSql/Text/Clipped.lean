import RecordSql.Text.CodePoint

/-! Texts cut to a number of bytes, as some messages show names. -/

namespace RecordSql.Text

/-- The code points that fit into some bytes of UTF-8. One that only begins there is shown as the
replacement character. -/
def clipCodes : Nat → List Nat → List Nat
  | _, [] => []
  | room, n :: ns =>
    let size := (utf8Of n).length
    if size ≤ room then n :: clipCodes (room - size) ns
    else if room = 0 then [] else [0xFFFD]

/-- The part of a text that fits into some bytes. -/
def clipped (room : Nat) (s : String) : String := ofCodes (clipCodes room (codes s))

end RecordSql.Text
