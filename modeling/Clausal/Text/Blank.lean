import Clausal.Text.Ranges

/-!
# White space

The characters that separate tokens and mean nothing else: the controls that
move the writing position, the four information separators, and the spaces and
line ends of Unicode. Characters of no width are not among them.
-/

namespace Clausal.Text

def blanks : Ranges :=
  [(0x09, 0x0d), (0x1c, 0x20), (0x85, 0x85), (0xa0, 0xa0), (0x1680, 0x1680),
    (0x2000, 0x200a), (0x2028, 0x2029), (0x202f, 0x202f), (0x205f, 0x205f), (0x3000, 0x3000)]

def isBlank (c : Char) : Bool := blanks.contain c

/-- A text without the white space at its ends. -/
def trimmed (s : String) : String :=
  String.ofList ((s.toList.dropWhile isBlank).reverse.dropWhile isBlank).reverse

end Clausal.Text
