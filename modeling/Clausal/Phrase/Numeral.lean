/-!
# Numerals

A numeral is a run of digits, with single low lines between them. It has a base, a
point, an exponent, or a mark that it counts imaginary units, by the characters in it.
-/

namespace Clausal.Phrase

/-- The longest run of digits, with single low lines between them. -/
def digitRun (digit : Char → Bool) : List Char → List Char
  | [] => []
  | c :: rest =>
      if digit c then c :: digitRun digit rest
      else
        match c, rest with
        | '_', d :: _ => if digit d then c :: digitRun digit rest else []
        | _, _ => []

def digitsFrom (digit : Char → Bool) (cs : List Char) : List Char :=
  if cs.head?.any digit then digitRun digit cs else []

def digitValue (c : Char) : Nat :=
  if c.isDigit then c.toNat - '0'.toNat else c.toLower.toNat - 'a'.toNat + 10

/-- A digit of a base up to sixteen. -/
def isDigitIn (base : Nat) (c : Char) : Bool :=
  (c.isDigit || ('a' ≤ c.toLower && c.toLower ≤ 'f')) && digitValue c < base

def withoutLines (cs : List Char) : List Char := cs.filter (· ≠ '_')

/-- The value of digits, low lines left out. -/
def valueIn (base : Nat) (cs : List Char) : Nat :=
  (withoutLines cs).foldl (fun n c => n * base + digitValue c) 0

/-- The exponent of a numeral: how many characters it has, and its value. -/
def exponentPart (cs : List Char) : Nat × Int :=
  match cs with
  | e :: rest =>
      if e = 'e' ∨ e = 'E' then
        let sign := rest.takeWhile fun c => c = '+' ∨ c = '-'
        let digits := digitsFrom Char.isDigit (rest.drop sign.length)
        if digits.isEmpty ∨ 1 < sign.length then (0, 0)
        else
          let n : Int := valueIn 10 digits
          (1 + sign.length + digits.length, if sign = ['-'] then -n else n)
      else (0, 0)
  | [] => (0, 0)

/-- The bases other than ten, with the marks that stand after a zero for them. -/
def bases : List (Nat × List Char) := [(16, ['x', 'X']), (2, ['b', 'B']), (8, ['o', 'O'])]

/-- The base of a numeral with a mark at its front, and its digits. -/
def basedDigits? (cs : List Char) : Option (Nat × List Char) :=
  match cs with
  | '0' :: mark :: rest =>
      match bases.find? fun base => base.2.contains mark with
      | none => none
      | some (base, _) =>
          let start := if rest.head? = some '_' then 1 else 0
          let digits := digitsFrom (isDigitIn base) (rest.drop start)
          if digits.isEmpty then none else some (base, rest.take (start + digits.length))
  | _ => none

/-- The number of characters of a numeral at the front of a text. A whole number that
starts with a zero and has no mark goes no further than its zeros. -/
def numeralLength (cs : List Char) : Nat :=
  let whole := digitsFrom Char.isDigit cs
  let afterWhole := cs.drop whole.length
  let fraction :=
    if afterWhole.head? = some '.' then digitsFrom Char.isDigit (afterWhole.drop 1) else []
  let pointed := afterWhole.head? = some '.' && (!whole.isEmpty || !fraction.isEmpty)
  let length := whole.length + (if pointed then 1 + fraction.length else 0)
  if length = 0 then 0
  else
    let exponentLength := (exponentPart (cs.drop length)).1
    let total := length + exponentLength
    if (cs.drop total).head?.any fun c => c = 'j' ∨ c = 'J' then total + 1
    else if pointed || exponentLength ≠ 0 then total
    else
      match basedDigits? cs with
      | some (_, digits) => 2 + digits.length
      | none =>
          if whole.head? = some '0' then (digitRun (fun c => c = '0') whole).length
          else whole.length

def isWhole (s : String) : Bool := s.toList.all fun c => c.isDigit || c = '_'

/-- A numeral has a point, and neither an exponent nor a mark for imaginary units. -/
def isPointed (s : String) : Bool :=
  s.toList.contains '.' && s.toList.all fun c => !(['e', 'E', 'j', 'J'].contains c)

def isDecimal (s : String) : Bool :=
  s.toList.contains '.' ||
    (s.toList.any (fun c => c = 'e' ∨ c = 'E') && (s.toList.drop 1).head?.all fun c =>
      c ≠ 'x' ∧ c ≠ 'X')

/-- A numeral without its mark for imaginary units, if it has one. -/
def imaginary? (s : String) : Option String :=
  match s.toList.reverse with
  | c :: rest => if c = 'j' ∨ c = 'J' then some (String.ofList rest.reverse) else none
  | [] => none

def wholeValue (s : String) : Nat :=
  match basedDigits? s.toList with
  | some (base, digits) => valueIn base digits
  | none => valueIn 10 s.toList

/-- Numerals in several bases. -/
example : wholeValue "0x1F" = 31 ∧ wholeValue "1_000" = 1000 ∧ wholeValue "0b_101" = 5 ∧
    numeralLength "007".toList = 2 ∧ numeralLength "1.5e-3x".toList = 6 := by decide +kernel

end Clausal.Phrase
