import Clausal.Text.Parts
import Clausal.Text.Quoted

/-!
# Templates

A template is a text with gaps into which values are put from the left to the right. A gap
starts with a percent sign and ends with the letter of the form in which the value is written;
between them stand marks, a width and a precision. Two percent signs stand for one of the
text. A template without percent signs is filled by nothing and stays as it is.
-/

namespace Clausal.Text

/-- A value that is put into a gap: how it is shown and how it is spelled, what its kind is
called, and the integer that it is or that is next to it towards zero. -/
structure Filler where
  shown : String
  spelled : String
  kind : String
  whole? : Option Int
  truncated? : Option Int

def textKind : String := "str"

def Filler.ofText (s : String) : Filler := ⟨s, quoted s, textKind, none, none⟩

/-- Why a template cannot be filled. -/
inductive Misfit where
  | named
  | noWidth
  | wide
  | precise
  | incomplete
  | unknownForm (letter : Char) (place : Nat)
  | tooFew
  | tooMany
  | notReal (form : Char) (kind : String)
  | notInteger (form : Char) (kind : String)
  | notDecimal (kind : String)
  | notCharacter
  deriving DecidableEq

/-- A letter in a message, which shows no others than these. -/
def shownLetter (c : Char) : Char := if 31 ≤ c.toNat && c.toNat < 126 then c else '?'

def Misfit.message : Misfit → String
  | .named => "format requires a mapping"
  | .noWidth => "* wants int"
  | .wide => "width too big"
  | .precise => "precision too big"
  | .incomplete => "incomplete format"
  | .unknownForm letter place =>
      "unsupported format character '" ++ String.singleton (shownLetter letter) ++ "' (0x" ++
        String.ofList (Nat.toDigits 16 letter.toNat) ++ ") at index " ++ Nat.repr place
  | .tooFew => "not enough arguments for format string"
  | .tooMany => "not all arguments converted during string formatting"
  | .notReal form kind =>
      "%" ++ String.singleton form ++ " format: a real number is required, not " ++ kind
  | .notInteger form kind =>
      "%" ++ String.singleton form ++ " format: an integer is required, not " ++ kind
  | .notDecimal kind => "must be real number, not " ++ kind
  | .notCharacter => "%c requires int or char"

/-- A gap: its marks, the width and the precision of what is put into it, whether one of them
is to be taken from the values, and the letter of its form with its place. -/
structure Gap where
  marks : List Char
  width : Nat
  precision? : Option Nat
  starred : Bool
  form : Char
  place : Nat
  deriving DecidableEq

/-- The marks of gaps. -/
def gapMarks : List Char := ['-', '+', ' ', '#', '0']

/-- The greatest width. -/
def widthLimit : Nat := 9223372036854775807

/-- The greatest precision. -/
def precisionLimit : Nat := 2147483647

def numberOf (digits : List Char) : Nat :=
  digits.foldl (fun n c => 10 * n + (c.toNat - '0'.toNat)) 0

/-- The gap after a percent sign, and how many characters it takes. -/
def gapAt (place : Nat) (cs : List Char) : Except Misfit (Gap × Nat) :=
  let marks := cs.takeWhile gapMarks.contains
  let afterMarks := cs.drop marks.length
  let width := afterMarks.takeWhile Char.isDigit
  let afterWidth := afterMarks.drop width.length
  let pointed := afterWidth.head? = some '.'
  let afterPoint := if pointed then afterWidth.drop 1 else afterWidth
  let precision := if pointed then afterPoint.takeWhile Char.isDigit else []
  let afterPrecision := afterPoint.drop precision.length
  let sized := afterPrecision.head?.any ['h', 'l', 'L'].contains
  let rest := if sized then afterPrecision.drop 1 else afterPrecision
  let taken := cs.length - rest.length
  let precision? := if pointed then some (numberOf precision) else none
  let gap (starred : Bool) (form : Char) : Gap :=
    ⟨marks, numberOf width, precision?, starred, form, place + taken⟩
  if cs.head? = some '(' then .error .named
  else if afterMarks.head? = some '*' then .ok (gap true '*', taken)
  else if widthLimit < numberOf width then .error .wide
  else if pointed && afterPoint.head? = some '*' then .ok (gap true '*', taken)
  else if precisionLimit < numberOf precision then .error .precise
  else
    match rest with
    | form :: _ => .ok (gap false form, taken + 1)
    | [] => .error .incomplete

/-- A text in a gap of at least some width. -/
def Gap.laid (g : Gap) (front cs : List Char) : List Char :=
  let missing := g.width - (front.length + cs.length)
  if g.marks.contains '-' then padded 0 missing ' ' (front ++ cs)
  else padded missing 0 ' ' (front ++ cs)

/-- The sign of a number, and a mark of its base. -/
def Gap.front (g : Gap) (n : Int) : List Char :=
  let sign :=
    if n < 0 then ['-']
    else if g.marks.contains '+' then ['+']
    else if g.marks.contains ' ' then [' ']
    else []
  let base :=
    if !g.marks.contains '#' then []
    else if g.form = 'x' ∨ g.form = 'X' then ['0', g.form]
    else if g.form = 'o' then ['0', 'o']
    else []
  sign ++ base

/-- An integer in a gap. -/
def Gap.counted (g : Gap) (base : Nat) (n : Int) : List Char :=
  let digits := Nat.toDigits base n.natAbs
  let digits := if g.form = 'X' then digits.map Char.toUpper else digits
  let digits := padded (g.precision?.getD 0 - digits.length) 0 '0' digits
  let front := g.front n
  if g.marks.contains '0' && !g.marks.contains '-' then
    front ++ padded (g.width - (front.length + digits.length)) 0 '0' digits
  else g.laid front digits

/-- A text in a gap, of which the precision is the greatest length. -/
def Gap.worded (g : Gap) (cs : List Char) : List Char :=
  g.laid [] (g.precision?.elim cs cs.take)

/-- A character that is written by its code point unless it is an ASCII one. -/
def asciiOnly (c : Char) : List Char :=
  if c.toNat < 0x80 then [c]
  else if c.toNat < 0x100 then '\\' :: 'x' :: hexadecimal 2 c.toNat
  else if c.toNat < 0x10000 then '\\' :: 'u' :: hexadecimal 4 c.toNat
  else '\\' :: 'U' :: hexadecimal 8 c.toNat

/-- The character that a value is, or of which it is the code point. -/
def Filler.character? (f : Filler) : Option Char :=
  match f.whole?, f.shown.toList with
  | some n, _ => if n < 0 then none else some (Char.ofNat n.toNat)
  | none, [c] => if f.kind = textKind then some c else none
  | none, _ => none

def Gap.put (g : Gap) (f : Filler) : Except Misfit (List Char) :=
  let number (base : Nat) (n? : Option Int) (misfit : Misfit) : Except Misfit (List Char) :=
    match n? with
    | some n => .ok (g.counted base n)
    | none => .error misfit
  if g.starred then .error .noWidth
  else if g.form = 's' then .ok (g.worded f.shown.toList)
  else if g.form = 'r' then .ok (g.worded f.spelled.toList)
  else if g.form = 'a' then .ok (g.worded (f.spelled.toList.flatMap asciiOnly))
  else if g.form = 'c' then
    match f.character? with
    | some c => .ok (g.laid [] [c])
    | none => .error .notCharacter
  else if ['d', 'i', 'u'].contains g.form then
    number 10 f.truncated? (.notReal g.form f.kind)
  else if g.form = 'x' ∨ g.form = 'X' then number 16 f.whole? (.notInteger g.form f.kind)
  else if g.form = 'o' then number 8 f.whole? (.notInteger g.form f.kind)
  else if ['e', 'E', 'f', 'F', 'g', 'G'].contains g.form then .error (.notDecimal f.kind)
  else .error (.unknownForm g.form g.place)

/-- A part of a template. -/
inductive Piece where
  | plain (c : Char)
  | gap (g : Gap)
  | flawed (m : Misfit)

/-- The parts of a template of which the first character has a place. -/
def templatePieces (place : Nat) : List Char → List Piece
  | [] => []
  | '%' :: '%' :: cs => .plain '%' :: templatePieces (place + 2) cs
  | '%' :: cs =>
      match gapAt (place + 1) cs with
      | .ok (g, taken) => .gap g :: templatePieces (place + 1 + taken) (cs.drop taken)
      | .error m => [.flawed m]
  | c :: cs => .plain c :: templatePieces (place + 1) cs
termination_by cs => cs.length
decreasing_by
  · simp only [List.length_cons]; omega
  · simp only [List.length_drop, List.length_cons]; omega
  · simp only [List.length_cons]; omega

/-- The parts of a template with values in its gaps. -/
def fillPieces : List Piece → List Filler → Except Misfit (List Char)
  | [], [] => .ok []
  | [], _ :: _ => .error .tooMany
  | .plain c :: pieces, fillers => do
      let rest ← fillPieces pieces fillers
      .ok (c :: rest)
  | .flawed m :: _, _ => .error m
  | .gap _ :: _, [] => .error .tooFew
  | .gap g :: pieces, f :: fillers => do
      let cs ← g.put f
      let rest ← fillPieces pieces fillers
      .ok (cs ++ rest)

def fill (template : String) (fillers : List Filler) : Except Misfit String :=
  (fillPieces (templatePieces 0 template.toList) fillers).map String.ofList

end Clausal.Text
