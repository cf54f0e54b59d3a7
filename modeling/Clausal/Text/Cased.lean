/-!
# Upper and lower case

The letters of the Latin alphabet have two cases. All other characters are left alone.
-/

namespace Clausal.Text

/-- A character with two cases. -/
def isCased (c : Char) : Bool := c.isAlpha

def raised (cs : List Char) : List Char := cs.map Char.toUpper

def lowered (cs : List Char) : List Char := cs.map Char.toLower

/-- A text with a capital at its front and small letters after it. -/
def capitalized : List Char → List Char
  | [] => []
  | c :: cs => c.toUpper :: lowered cs

/-- A text with a capital at the front of every word. -/
def titled (inside : Bool) : List Char → List Char
  | [] => []
  | c :: cs => (if inside then c.toLower else c.toUpper) :: titled (isCased c) cs

def swapped (cs : List Char) : List Char :=
  cs.map fun c => if c.isUpper then c.toLower else c.toUpper

/-- Words with capitals at their fronts. -/
example : titled false "ab c'd".toList = "Ab C'D".toList := by decide

end Clausal.Text
