import Clausal.Text.Blank

/-!
# Parts of texts

A part of a text is found by its place, counted from the front, and a text is cut where
the part stands. Texts are lists of characters here.
-/

namespace Clausal.Text

/-- The place of a part in a text, if it stands there. -/
def placeOf? (part : List Char) : List Char → Option Nat
  | [] => if part.isEmpty then some 0 else none
  | c :: cs =>
      if part.isPrefixOf (c :: cs) then some 0 else (placeOf? part cs).map (· + 1)

/-- A text cut wherever a part stands. The fuel bounds the number of pieces. -/
def cutAt (part : List Char) : (fuel : Nat) → List Char → List (List Char)
  | 0, cs => [cs]
  | fuel + 1, cs =>
      match placeOf? part cs with
      | some n => cs.take n :: cutAt part fuel (cs.drop (n + part.length))
      | none => [cs]

/-- A text cut so many times at most, wherever a part stands. -/
def pieces (part : List Char) (limit? : Option Nat) (cs : List Char) : List (List Char) :=
  cutAt part (limit?.getD (cs.length + 1)) cs

def wordsOf (cs : List Char) : List (List Char) := (cs.splitOnP isBlank).filter (· ≠ [])

/-- A text without the characters of a set at its front. -/
def withoutFront (among : Char → Bool) (cs : List Char) : List Char := cs.dropWhile among

/-- A text without the characters of a set at its end. -/
def withoutEnd (among : Char → Bool) (cs : List Char) : List Char :=
  (cs.reverse.dropWhile among).reverse

/-- A text of at least a given width, with characters put in front of it and after it. -/
def padded (front back : Nat) (fill : Char) (cs : List Char) : List Char :=
  List.replicate front fill ++ cs ++ List.replicate back fill

end Clausal.Text
