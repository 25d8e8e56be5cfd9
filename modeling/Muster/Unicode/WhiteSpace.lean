import Muster.Unicode.Ranges

/-!
# White space

The `White_Space` property: what separates the words of a line, and what trimming removes. It has
25 characters, among them the next-line control, the no-break spaces and the two separators of
lines and paragraphs; the zero-width space and the byte order mark are not in it.
-/

namespace Muster.Unicode

/-- The `White_Space` property. -/
def whiteSpace : Ranges :=
  [(0x9, 0xD), (0x20, 0x20), (0x85, 0x85), (0xA0, 0xA0), (0x1680, 0x1680), (0x2000, 0x200A),
   (0x2028, 0x2029), (0x202F, 0x202F), (0x205F, 0x205F), (0x3000, 0x3000)]

/-- Whether a character separates words. -/
def isWhite (c : Char) : Bool := whiteSpace.holds c.toNat

end Muster.Unicode
