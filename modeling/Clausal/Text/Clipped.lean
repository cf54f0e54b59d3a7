/-!
# Texts cut to a number of bytes

Messages have room for a limited number of bytes of a name. A character that
does not fit into what is left is shown by a replacement.
-/

namespace Clausal.Text

/-- The character that stands for a part of a character. -/
def replacement : Char := '\ufffd'

/-- The first characters of a text that fit into a number of bytes, with a
replacement for the first part of a character that does not. -/
def clipChars : (room : Nat) → List Char → List Char
  | _, [] => []
  | room, c :: rest =>
      if c.utf8Size ≤ room then c :: clipChars (room - c.utf8Size) rest
      else if room = 0 then [] else [replacement]

def clip (room : Nat) (s : String) : String := String.ofList (clipChars room s.toList)

end Clausal.Text
