import Clausal.Text.Ranges

/-!
# Lines of a text

A line ends at one of the line ends of Unicode, at a separator of files, groups
or records, and at a form feed or a vertical tab. A carriage return with a line
feed is one line end. A line end at the end of a text starts no further line, so
the empty text has no lines.
-/

namespace Clausal.Text

def lineEnds : Ranges := [(0x0a, 0x0d), (0x1c, 0x1e), (0x85, 0x85), (0x2028, 0x2029)]

def isLineEnd (c : Char) : Bool := lineEnds.contain c

/-- A character in front of the first of some lines. -/
def consLine (c : Char) : List (List Char) → List (List Char)
  | [] => [[c]]
  | line :: lines => (c :: line) :: lines

/-- The lines of a text, without their ends. -/
def charLines : List Char → List (List Char)
  | [] => []
  | '\r' :: '\n' :: cs => [] :: charLines cs
  | c :: cs => if isLineEnd c then [] :: charLines cs else consLine c (charLines cs)

/-- The lines of a text, without their ends. -/
def lines (s : String) : List String := (charLines s.toList).map String.ofList

/-- A text without line ends is a single line, unless it is empty. -/
theorem charLines_eq_singleton {cs : List Char} (nonempty : cs ≠ [])
    (unbroken : ∀ c ∈ cs, isLineEnd c = false) : charLines cs = [cs] := by
  induction cs with
  | nil => exact absurd rfl nonempty
  | cons c cs ih =>
      have plain : isLineEnd c = false := unbroken c List.mem_cons_self
      have noReturn : c ≠ '\r' := by
        intro h
        subst h
        exact absurd plain (by decide)
      rw [charLines.eq_3 c cs fun rest h _ => noReturn h]
      simp only [plain]
      cases cs with
      | nil => rfl
      | cons d ds =>
          rw [ih (by simp) fun e he => unbroken e (List.mem_cons_of_mem c he)]
          rfl

end Clausal.Text
