import Clausal.Text.Blank
import Clausal.Text.Digits
import Clausal.Worksheet.Naming

/-!
# Symbols and integers of plain values

A symbol is made of a text, whatever characters it has. An integer is made of a
number or of a text with its digits, which may belong to any script; what comes after
the point of a number is dropped.
-/

namespace Clausal.Worksheet

def variableNamed : Value → Except Fault Value
  | .scalar (.text name) => .ok (.ofName name)
  | v => .error (.notName v.className)

/-- A blank beside an integer. The controls that separate information are none. -/
def isMargin (c : Char) : Bool := Text.isBlank c && !('\x1c' ≤ c && c ≤ '\x1f')

/-- What a character counts as in the text of an integer: a digit by its value, or a
low line. -/
def numeralPart? (c : Char) : Option (Option Nat) :=
  if c = '_' then some none else (Text.digitOf? c).map some

/-- The value of digits, of which the first counts most. -/
def digitsValue (digits : List Nat) : Nat := digits.foldl (fun n d => 10 * n + d) 0

/-- Low lines stand one by one between digits. -/
def isSpaced (parts : List (Option Nat)) : Bool :=
  (parts.splitOn none).all fun group => !group.isEmpty

/-- The natural number that characters spell, with blanks after it. Its digits are
counted before what comes after them is looked at. -/
def naturalOf (spelt : String) (cs : List Char) : Except Fault Nat :=
  let run := cs.takeWhile fun c => (numeralPart? c).isSome
  let parts := run.filterMap numeralPart?
  let digits := parts.filterMap id
  let rest := (cs.drop run.length).dropWhile isMargin
  if !isSpaced parts then .error (.notNumeral spelt)
  else if Expression.digitLimit < digits.length then .error (.longNumeral digits.length)
  else if !rest.isEmpty then .error (.notNumeral spelt)
  else .ok (digitsValue digits)

def integerSpelt (s : String) : Except Fault Int :=
  match s.toList.dropWhile isMargin with
  | '-' :: cs => (naturalOf s cs).map fun n => -(n : Int)
  | '+' :: cs => (naturalOf s cs).map fun n => (n : Int)
  | cs => (naturalOf s cs).map fun n => (n : Int)

/-- The part of a number in front of the point. -/
def truncated (q : Rat) : Int := if q < 0 then q.ceil else q.floor

def integerOf : Value → Except Fault Value
  | .scalar (.int n) => .ok (.expression (.int n))
  | .scalar (.truth b) => .ok (.expression (.int (if b then 1 else 0)))
  | .scalar (.floating x) => .ok (.expression (.int (truncated x.toRat)))
  | .scalar (.text s) => do
      let n ← integerSpelt (String.ofList (s.toList.filter (· ≠ ' ')))
      .ok (.expression (.int n))
  | v => v.refuse .notNumeric

end Clausal.Worksheet
