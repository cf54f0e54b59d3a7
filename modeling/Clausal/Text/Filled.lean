/-!
# Lines of a given width

Words are put on lines as long as they fit. A word that is too long for every line has a
line of its own.
-/

namespace Clausal.Text

/-- The lines that words make after a line that is begun. -/
def linesAfter (width : Nat) (line : String) : List String → List String
  | [] => [line]
  | word :: words =>
      if line.isEmpty then linesAfter width word words
      else if line.length + 1 + word.length ≤ width then
        linesAfter width (line ++ " " ++ word) words
      else line :: linesAfter width word words

def filled (width : Nat) (s : String) : String :=
  let words := (s.toList.splitOn ' ').filter (· ≠ [])
  "\n".intercalate (linesAfter width "" (words.map String.ofList))

/-- Three words on two lines. -/
example : linesAfter 5 "" ["ab", "cd", "ef"] = ["ab cd", "ef"] := by decide +kernel

end Clausal.Text
